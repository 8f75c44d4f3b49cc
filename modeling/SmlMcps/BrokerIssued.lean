import SmlMcps.BrokerDelivery
import SmlMcps.Library.Decimal

/-! Ids the broker handed out. It keeps no list of them: an id passes for its own when it
reads `sml-` and a number below the counter. A number has more spellings than the one it
was handed out in, with a plus sign or with zeros in front, and an answer under one of
those is kept although no request ever had that id. -/
namespace SmlMcps

namespace BrokerLabel

/-- The response the operation may park, as nobody is registered for it. -/
def parks (broker : RequestBroker) : BrokerLabel → Option JsonRpcResponse
  | .park response => some response
  | .deliver response => if (broker.waiter? response.id).isNone then some response else none
  | _ => none

def cancels : BrokerLabel → Option RequestId
  | .cancel id => some id
  | _ => none

/-- The client answers a request there was not. -/
def Foreign (drawn : List RequestId) : BrokerLabel → Prop
  | .park response | .deliver response => response.id ∉ drawn
  | _ => False

instance Foreign.instDecidable (drawn : List RequestId) :
    (label : BrokerLabel) → Decidable (label.Foreign drawn)
  | .park response | .deliver response => inferInstanceAs (Decidable (response.id ∉ drawn))
  | .nextRequestId | .takeParked _ | .registerWaiter _ | .abandon _ | .cancel _ | .defer _
  | .nextDeferred => inferInstanceAs (Decidable False)

end BrokerLabel

namespace RequestBroker

/-- A numeral with a plus sign, or with a zero in front that it does not need. -/
def padded : List Char → Bool
  | '+' :: _ => true
  | '0' :: _ :: _ => true
  | _ => false

/-- What follows the prefix of four characters is padded. -/
def paddedId : RequestId → Bool
  | .string text => padded (text.toList.drop 4)
  | _ => false

/-- The id has the number of one that was handed out, in another spelling. -/
def respelt (broker : RequestBroker) (id : RequestId) : Bool :=
  broker.wasIssuedHere id && paddedId id

/-- The ids handed out so far, oldest first. An id has the number the counter stands at,
also when the counter is at its last. -/
def recordDrawn (before : RequestBroker) (label : BrokerLabel) (_ : RequestBroker)
    (drawn : List RequestId) : List RequestId :=
  match label with
  | .nextRequestId => drawn ++ [issued before.nextId]
  | _ => drawn

def track : RequestBroker × List RequestId → BrokerLabel → Option (RequestBroker × List RequestId) :=
  Runs.observed step recordDrawn

/-- One operation keeps the law: what it retains or cancels has an id handed out before,
and a response to any other changes nothing about the parked ones. -/
structure Lawful (state : RequestBroker × List RequestId) (label : BrokerLabel) : Prop where
  retained : ∀ response ∈ label.parks state.1, response ∈ (state.1.perform label).parked →
    response.id ∈ state.2
  cancelled : ∀ id ∈ label.cancels,
    (state.1.cancel id).2 = true ∨ (state.1.cancel id).1 ≠ state.1 → id ∈ state.2
  spared : ∀ response ∈ label.parks state.1, response.id ∉ state.2 →
    (state.1.perform label).parked = state.1.parked

/-- The law of the ids handed out, along the operations from the start. -/
structure IssuedLaw (labels : List BrokerLabel) : Prop where
  steps : Runs.Guarded track Lawful (new,[]) labels
  slots : Runs.Throughout track (fun state => ∀ response ∈ state.1.parked, response.id ∈ state.2)
    (new,[]) labels
  answers : ∀ front back before after, labels = front ++ back →
    Runs.execute track (new,[]) front = some before → Runs.execute track before back = some after →
    (∀ label ∈ back, label.Foreign before.2) → after.1.parked = before.1.parked

/-- The operation names no id in another spelling, but to answer a request given up under
that spelling. -/
def Spelt (state : RequestBroker × List RequestId) (label : BrokerLabel) : Prop :=
  (∀ response ∈ label.parks state.1,
    response.id ∈ state.1.abandoned ∨ state.1.respelt response.id = false) ∧
  ∀ id ∈ label.cancels, state.1.respelt id = false

variable {broker : RequestBroker} {state : RequestBroker × List RequestId} {label : BrokerLabel}

/-! ## Spellings -/

theorem padded_digits {digits : List Char} (decimal : ∀ digit ∈ digits, digit.isDigit = true)
    (present : digits ≠ []) : padded digits = false ↔ Decimal.Plain digits := by
  constructor
  · intro plain
    refine ⟨present,decimal,?_⟩
    intro zero
    obtain ⟨rest,rfl⟩ := List.head?_eq_some_iff.mp zero
    cases rest with
    | nil => rfl
    | cons next rest => cases plain
  · intro plain
    unfold padded
    split
    · exact absurd (decimal '+' (by simp)) (by decide)
    · cases plain.front rfl
    · rfl

theorem not_padded_toDigits (number : Nat) : padded (Nat.toDigits 10 number) = false :=
  (padded_digits (Decimal.plain_toDigits number).decimal Nat.toDigits_ne_nil).mpr
    (Decimal.plain_toDigits number)

theorem not_paddedId_issued (number : Nat) : paddedId (issued number) = false := by
  simp only [issued,paddedId]
  rw [issued_toList]
  exact not_padded_toDigits number

/-- A number that reads unpadded is written the way it is handed out. -/
theorem toDigits_of_unpadded {written : List Char} {number : Nat}
    (read : parseUnsigned written = some number) (unpadded : padded written = false) :
    written = Nat.toDigits 10 number := by
  obtain ⟨digits,rfl | rfl,present,decimal,rfl⟩ := parseUnsigned_some read
  · exact (Decimal.toDigits_ofDigitChars ((padded_digits decimal present).mp unpadded)).symm
  · cases unpadded

/-- What the broker takes for its own is what it handed out, and other spellings of that. -/
theorem issued_iff (bound : broker.nextId ≤ 2^64) (id : RequestId) :
    broker.Issued id ↔ broker.wasIssuedHere id = true ∧ paddedId id = false := by
  constructor
  · intro known
    refine ⟨wasIssuedHere_of_issued known bound,?_⟩
    obtain ⟨number,-,rfl⟩ := known
    exact not_paddedId_issued number
  · rintro ⟨recognised,unpadded⟩
    unfold wasIssuedHere at recognised
    split at recognised
    · rename_i text
      split at recognised
      · rename_i rest prefixed
        split at recognised
        · rename_i number read
          refine ⟨number,of_decide_eq_true recognised,?_⟩
          have plain : padded rest = false := by
            simpa only [paddedId,prefixed,List.drop_succ_cons,List.drop_zero] using unpadded
          apply congrArg RequestId.string
          apply String.toList_inj.mp
          rw [prefixed,issued_toList,toDigits_of_unpadded read plain]
        · cases recognised
      · cases recognised
    · cases recognised

/-! ## The parked answers after one operation -/

theorem park_parked (broker : RequestBroker) (response : JsonRpcResponse) :
    (broker.park response).parked =
      if broker.wasIssuedHere response.id = true ∧ response.id ∉ broker.abandoned then
        parkIn broker.parked response
      else broker.parked := by
  simp only [park,forgetAbandoned]
  cases known : broker.wasIssuedHere response.id with
  | false => simp
  | true =>
    by_cases given : response.id ∈ broker.abandoned
    · simp [given]
    · simp [given]

theorem mem_parkIn_self (parked : List JsonRpcResponse) (response : JsonRpcResponse) :
    response ∈ parkIn parked response := by
  simp only [parkIn]
  split
  · rename_i index found
    obtain ⟨inside,-,-⟩ := List.findIdx?_eq_some_iff_getElem.mp found
    exact List.mem_set inside _
  · have bound : (parked ++ [response]).length - maxParked ≤ parked.length := by
      have sixteen : maxParked = 16 := rfl
      rw [List.length_append,List.length_singleton]
      omega
    rw [List.drop_append_of_le_length bound]
    exact List.mem_append_right _ (List.mem_singleton_self response)

/-- Nothing but a response without a waiter is added to the parked ones. -/
theorem perform_parked (broker : RequestBroker) (label : BrokerLabel) :
    (broker.perform label).parked.Sublist broker.parked ∨
      ∃ response, response ∈ label.parks broker := by
  cases label with
  | nextRequestId =>
    obtain ⟨nextId,drawn⟩ := drawId_kept broker
    left
    simp only [perform,drawn]
    exact List.Sublist.refl _
  | takeParked id =>
    left
    simp only [perform,takeParked]
    split
    · exact List.Sublist.refl _
    · exact List.eraseP_sublist
  | registerWaiter id => exact .inl (List.Sublist.refl _)
  | deliver response =>
    simp only [perform,deliver]
    split
    · exact .inl (List.Sublist.refl _)
    · rename_i absent
      have unheld : (broker.waiter? response.id).isNone = true :=
        Option.isNone_iff_eq_none.mpr absent
      exact .inr ⟨response,if_pos unheld⟩
  | park response => exact .inr ⟨response,rfl⟩
  | abandon id => exact .inl List.filter_sublist
  | cancel id =>
    left
    simp only [perform,cancel]
    split
    · exact List.filter_sublist
    · exact List.Sublist.refl _
  | defer message =>
    left
    simp only [perform,defer]
    split <;> exact List.Sublist.refl _
  | nextDeferred =>
    left
    simp only [perform,nextDeferred]
    split <;> exact List.Sublist.refl _

theorem perform_parks {response : JsonRpcResponse} (parks : response ∈ label.parks broker) :
    (broker.perform label).parked = (broker.park response).parked := by
  cases label with
  | park given => rw [Option.some.inj parks,perform]
  | deliver given =>
    simp only [BrokerLabel.parks,Option.mem_def] at parks
    split at parks
    · rename_i unheld
      have absent : AList.lookup given.id broker.waiters = none := Option.isNone_iff_eq_none.mp unheld
      rw [← Option.some.inj parks]
      simp only [perform,deliver,absent]
    · cases parks
  | _ => cases parks

theorem perform_nextId (broker : RequestBroker) (label : BrokerLabel) :
    (broker.perform label).nextId = broker.nextId ∨ label = .nextRequestId := by
  cases label with
  | nextRequestId => exact .inr rfl
  | deliver response =>
    left
    simp only [perform,deliver]
    split
    · rfl
    · exact (park_aside broker response).2.2
  | park response => exact .inl (park_aside broker response).2.2
  | takeParked _ | cancel _ | defer _ | nextDeferred =>
    left
    simp only [perform,takeParked,cancel,defer,nextDeferred]
    split <;> rfl
  | _ => exact .inl rfl

/-! ## The ids handed out -/

/-- What the operations keep while no id is named in another spelling. -/
structure Ledger (state : RequestBroker × List RequestId) : Prop where
  bound : state.1.nextId ≤ 2^64
  drawn : ∀ id ∈ state.2, ∃ number, id = issued number
  known : ∀ id, state.1.Issued id → id ∈ state.2
  parked : ∀ response ∈ state.1.parked, response.id ∈ state.2

theorem ledger_new : Ledger (new,[]) where
  bound := Nat.zero_le _
  drawn := nofun
  known := by
    rintro id ⟨number,below,-⟩
    cases below
  parked := nofun

/-- An id that is not respelt is recognised only if it was handed out. -/
theorem Ledger.recognised (ledger : Ledger state) {id : RequestId}
    (own : state.1.respelt id = false) (ours : state.1.wasIssuedHere id = true) : id ∈ state.2 := by
  apply ledger.known
  apply (issued_iff ledger.bound id).mpr
  refine ⟨ours,?_⟩
  simpa [respelt,ours] using own

theorem Ledger.own (ledger : Ledger state) {id : RequestId} (member : id ∈ state.2) :
    state.1.respelt id = false := by
  obtain ⟨number,rfl⟩ := ledger.drawn id member
  simp [respelt,not_paddedId_issued]

theorem Ledger.park_foreign (ledger : Ledger state) {response : JsonRpcResponse}
    (own : response.id ∈ state.1.abandoned ∨ state.1.respelt response.id = false)
    (foreign : response.id ∉ state.2) : (state.1.park response).parked = state.1.parked := by
  rw [park_parked,if_neg]
  rintro ⟨ours,wanted⟩
  rcases own with given | own
  · exact wanted given
  · exact foreign (ledger.recognised own ours)

/-- One operation keeps the law exactly when it names no id in another spelling. -/
theorem Ledger.lawful_iff (ledger : Ledger state) (label : BrokerLabel) :
    Lawful state label ↔ Spelt state label := by
  constructor
  · intro lawful
    constructor
    · intro response parks
      by_cases wanted : response.id ∈ state.1.abandoned
      · exact .inl wanted
      · right
        cases ours : state.1.wasIssuedHere response.id with
        | false => simp [respelt,ours]
        | true =>
          apply ledger.own
          apply lawful.retained response parks
          rw [perform_parks parks,park_parked,if_pos ⟨ours,wanted⟩]
          exact mem_parkIn_self _ response
    · intro id cancels
      cases ours : state.1.wasIssuedHere id with
      | false => simp [respelt,ours]
      | true =>
        apply ledger.own
        apply lawful.cancelled id cancels
        left
        simp only [cancel,ours,if_true]
  · rintro ⟨parks,cancels⟩
    constructor
    case retained =>
      intro response brought held
      by_contra foreign
      rw [perform_parks brought,ledger.park_foreign (parks response brought) foreign] at held
      exact foreign (ledger.parked response held)
    case cancelled =>
      intro id brought effect
      apply ledger.recognised (cancels id brought)
      by_contra noise
      simp [cancel,noise] at effect
    case spared =>
      intro response brought foreign
      rw [perform_parks brought]
      exact ledger.park_foreign (parks response brought) foreign

theorem drawId_nextId (broker : RequestBroker) :
    broker.drawId.nextId = broker.nextId + 1 ∧ broker.nextId + 1 < 2^64 ∨
      broker.drawId.nextId = 0 := by
  simp only [drawId,nextRequestId]
  split
  · rename_i drawn
    split at drawn
    · rename_i room
      cases drawn
      exact .inl ⟨rfl,room⟩
    · cases drawn
  · exact .inr rfl

theorem mem_recordDrawn {before after : RequestBroker} {drawn : List RequestId} {id : RequestId} :
    id ∈ recordDrawn before label after drawn ↔
      id ∈ drawn ∨ label = .nextRequestId ∧ id = issued before.nextId := by
  cases label <;> simp [recordDrawn]

theorem Ledger.step {next : RequestBroker × List RequestId} (ledger : Ledger state)
    (spelt : Spelt state label) (taken : track state label = some next) : Ledger next := by
  obtain ⟨performed,recorded⟩ := Runs.observed_step taken
  have performed : state.1.perform label = next.1 := Option.some.inj performed
  have grown : ∀ id, id ∈ next.2 ↔
      id ∈ state.2 ∨ label = .nextRequestId ∧ id = issued state.1.nextId := by
    intro id
    rw [recorded]
    exact mem_recordDrawn
  constructor
  case bound =>
    rw [← performed]
    rcases perform_nextId state.1 label with same | rfl
    · rw [same]
      exact ledger.bound
    · rcases drawId_nextId state.1 with ⟨more,room⟩ | again
      · exact more ▸ Nat.le_of_lt room
      · exact again ▸ Nat.zero_le _
  case drawn =>
    intro id member
    rcases (grown id).mp member with old | ⟨-,new⟩
    · exact ledger.drawn id old
    · exact ⟨_,new⟩
  case known =>
    rintro id ⟨number,below,rfl⟩
    rw [← performed] at below
    apply (grown _).mpr
    rcases perform_nextId state.1 label with same | rfl
    · rw [same] at below
      exact .inl (ledger.known _ ⟨number,below,rfl⟩)
    · rcases drawId_nextId state.1 with ⟨more,-⟩ | again
      · have below : number < state.1.nextId + 1 := more ▸ below
        rcases Nat.lt_succ_iff_lt_or_eq.mp below with old | rfl
        · exact .inl (ledger.known _ ⟨number,old,rfl⟩)
        · exact .inr ⟨rfl,rfl⟩
      · have below : number < 0 := again ▸ below
        cases below
  case parked =>
    intro response held
    rw [← performed] at held
    apply (grown _).mpr
    left
    rcases perform_parked state.1 label with fewer | ⟨brought,parks⟩
    · exact ledger.parked response (fewer.subset held)
    · rw [perform_parks parks] at held
      by_cases known : brought.id ∈ state.2
      · rw [park_parked] at held
        split at held
        · rcases mem_parkIn held with old | rfl
          · exact ledger.parked response old
          · exact known
        · exact ledger.parked response held
      · rw [ledger.park_foreign (spelt.1 brought parks) known] at held
        exact ledger.parked response held

/-! ## Whole runs -/

/-- A response to no request leaves the parked answers as they are. -/
theorem Lawful.foreign_same (lawful : Lawful state label) (foreign : label.Foreign state.2) :
    (state.1.perform label).parked = state.1.parked := by
  cases label with
  | park response => exact lawful.spared response rfl foreign
  | deliver response =>
    by_cases unheld : (state.1.waiter? response.id).isNone = true
    · exact lawful.spared response (if_pos unheld) foreign
    · simp only [perform,deliver]
      split
      · rfl
      · rename_i absent
        exact (unheld (Option.isNone_iff_eq_none.mpr absent)).elim
  | _ => exact foreign.elim

theorem foreign_keep {labels : List BrokerLabel} {after : RequestBroker × List RequestId}
    (lawful : Runs.Guarded track Lawful state labels)
    (foreign : ∀ label ∈ labels, label.Foreign state.2)
    (run : Runs.execute track state labels = some after) :
    after.1.parked = state.1.parked := by
  induction labels generalizing state with
  | nil =>
    cases run
    rfl
  | cons label rest ih =>
    rw [Runs.execute_cons,Option.bind_eq_some_iff] at run
    obtain ⟨next,taken,later⟩ := run
    obtain ⟨performed,recorded⟩ := Runs.observed_step taken
    have performed : state.1.perform label = next.1 := Option.some.inj performed
    have noise := foreign label (List.mem_cons_self ..)
    have drawn : next.2 = state.2 := by
      rw [recorded]
      cases label with
      | nextRequestId => exact noise.elim
      | _ => rfl
    have kept := lawful.1.foreign_same noise
    rw [performed] at kept
    rw [← kept]
    apply ih (lawful.2 next taken) _ later
    rw [drawn]
    intro label member
    exact foreign label (List.mem_cons_of_mem _ member)

/-- The law holds along a run exactly when no operation of it names an id in another
spelling than the one it was handed out in. -/
theorem issuedLaw_iff (labels : List BrokerLabel) :
    IssuedLaw labels ↔ Runs.Guarded track Spelt (new,[]) labels := by
  have alike : Runs.Guarded track Lawful (new,[]) labels ↔
      Runs.Guarded track Spelt (new,[]) labels :=
    Runs.guarded_congr (fun _ label ledger => ledger.lawful_iff label)
      (fun _ _ _ ledger spelt taken => ledger.step spelt taken) ledger_new labels
  constructor
  · intro law
    exact alike.mp law.steps
  · intro spelt
    have lawful := alike.mpr spelt
    constructor
    case steps => exact lawful
    case slots =>
      have throughout := spelt.throughout
        (fun _ _ _ ledger spelt taken => Ledger.step ledger spelt taken) ledger_new
      exact throughout.mono fun _ ledger => ledger.parked
    case answers =>
      rintro front back before after rfl reached later foreign
      exact foreign_keep (lawful.back reached) foreign later

/-! ### Sixteen aliases -/

def answerTo (id : RequestId) : JsonRpcResponse := ⟨id,some .null,none⟩

/-- The number zero with ever more zeros in front. -/
def aliases : List BrokerLabel :=
  (List.range maxParked).map fun zeros =>
    .deliver (answerTo (.string (String.ofList ("sml-".toList ++ List.replicate (zeros + 2) '0'))))

def asked : List BrokerLabel := [.nextRequestId,.deliver (answerTo (issued 0))]

theorem aliases_evict : ∃ before after, Runs.execute track (new,[]) asked = some before ∧
    Runs.execute track before aliases = some after ∧
    (∀ label ∈ aliases, label.Foreign before.2) ∧
    (before.1.takeParked (issued 0)).2 = some (answerTo (issued 0)) ∧
    (after.1.takeParked (issued 0)).2 = none := by
  refine ⟨_,_,rfl,rfl,?_,?_,?_⟩
  all_goals decide

/-- Sixteen answers to requests there never were push out the one that was asked for. -/
theorem aliases_unlawful : ¬IssuedLaw (asked ++ aliases) := by
  intro law
  obtain ⟨before,after,reached,later,foreign,parked,evicted⟩ := aliases_evict
  have kept := law.answers asked aliases before after rfl reached later foreign
  rw [takeParked_found] at parked evicted
  rw [kept,parked] at evicted
  cases evicted

end RequestBroker

end SmlMcps
