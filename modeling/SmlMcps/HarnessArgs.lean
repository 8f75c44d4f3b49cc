import SmlMcps.Library.Flags
import SmlMcps.Origin

/-! The command line of `install` and `uninstall`. It is scanned twice: once for `--connect`
alone, and once for `--client`, stepping over what the first scan is taken to have used. The
first scan does not know `--client`, so a client's name that is spelt like `--connect` is
used by both. -/
namespace SmlMcps

def connectFlag : String := "--connect"

/-- The text behind a prefix it has. -/
def stripPrefix (mark text : String) : Option String :=
  if mark.toList.isPrefixOf text.toList then
    some (String.ofList (text.toList.drop mark.toList.length))
  else none

def startsWith (text mark : String) : Bool := mark.toList.isPrefixOf text.toList

/-! ## The address of a remote daemon -/

namespace RemoteAddr

/-- What is wrong with a value as a `host:port`. It is checked for its shape only: a name
is for the resolver. -/
def check (value : String) : Except String Unit :=
  if value.toList.any JsonRpcMessage.isWhitespace then
    .error ("`" ++ value ++ "` is not a host:port - it contains whitespace")
  else match Marks.rsplitOnce ':' value.toList with
    | none => .error ("`" ++ value ++ "` is not a host:port - there is no port")
    | some (host,port) =>
      if host.isEmpty then .error ("`" ++ value ++ "` is not a host:port - there is no host")
      else if (Origin.parseU16 port).any (1 ≤ ·) then .ok ()
      else .error ("`" ++ value ++ "` is not a host:port - `" ++ String.ofList port ++
        "` is not a port number")

end RemoteAddr

/-- An address that passed the check. -/
structure RemoteAddr where
  text : String
  checked : RemoteAddr.check text = .ok ()
  deriving DecidableEq

/-- The address a `--connect` value names, or what is wrong with it. -/
def RemoteAddr.parse (value : String) : Except String RemoteAddr :=
  match checked : RemoteAddr.check value with
  | .ok () => .ok ⟨value,checked⟩
  | .error e => .error e

/-! ## The two scans -/

/-- The one address there may be. -/
def foundAddr (found : Option RemoteAddr) (value : String) : Except String (Option RemoteAddr) :=
  if value.isEmpty then .error ("`" ++ connectFlag ++ "` needs a host:port")
  else match RemoteAddr.parse value with
    | .error e => .error e
    | .ok addr =>
      if found.isSome then .error ("`" ++ connectFlag ++ "` was given more than once")
      else .ok (some addr)

/-- The `--connect` value, from where one may have been found already. -/
def connectFrom (found : Option RemoteAddr) : List String → Except String (Option RemoteAddr)
  | [] => .ok found
  | arg :: args =>
    if arg = connectFlag then
      match args with
      | [] => .error ("`" ++ connectFlag ++ "` needs a host:port")
      | value :: args =>
        match foundAddr found value with
        | .ok found => connectFrom found args
        | .error e => .error e
    else match (stripPrefix connectFlag arg).bind (stripPrefix "=") with
      | some value =>
        match foundAddr found value with
        | .ok found => connectFrom found args
        | .error e => .error e
      | none => connectFrom found args

def connectFromArgs (args : List String) : Except String (Option RemoteAddr) := connectFrom none args

/-- Whether an argument is `--connect`, in either spelling. -/
def isConnectFlag (argument : String) : Bool :=
  argument == connectFlag || startsWith argument (connectFlag ++ "=")

structure HarnessArgs where
  /-- Every `--client` value, in order. -/
  selectors : List String
  connect : Option RemoteAddr
  deriving DecidableEq

namespace HarnessArgs

/-- The rest of the flags, with the pair of `--connect` skipped. -/
def selectorsFrom (selectors : List String) : List String → Except String (List String)
  | [] => .ok selectors
  | argument :: remaining =>
    if argument = connectFlag then
      match remaining with
      | [] => .ok selectors
      | _ :: remaining => selectorsFrom selectors remaining
    else if isConnectFlag argument then selectorsFrom selectors remaining
    else if argument = "--client" then
      match remaining with
      | [] => .error "`--client` needs a client name"
      | value :: remaining =>
        if value.isEmpty then .error "`--client` needs a client name"
        else selectorsFrom (selectors ++ [value]) remaining
    else match stripPrefix "--client=" argument with
      | some value =>
        if value.isEmpty then .error "`--client` needs a client name"
        else selectorsFrom (selectors ++ [value]) remaining
      | none => .error ("unknown argument `" ++ argument ++ "`")

/-- What the arguments ask for, or what was wrong with them. -/
def parse (args : List String) : Except String HarnessArgs :=
  match connectFromArgs args with
  | .error e => .error e
  | .ok connect =>
    match selectorsFrom [] args with
    | .error e => .error e
    | .ok selectors => .ok ⟨selectors,connect⟩

end HarnessArgs

/-! ## How the flags are spelt -/

inductive HarnessFlag where
  | client
  | connect
  deriving DecidableEq

def HarnessFlag.name : HarnessFlag → String
  | .client => "--client"
  | .connect => connectFlag

variable {mark text rest token value : String}

theorem stripPrefix_eq_some : stripPrefix mark text = some rest ↔ text = mark ++ rest := by
  rw [stripPrefix,← String.toList_inj,String.toList_append]
  constructor
  · intro stripped
    split at stripped
    · rename_i begins
      obtain ⟨more,same⟩ := List.isPrefixOf_iff_prefix.mp begins
      rw [← Option.some.inj stripped,← same,List.drop_left,String.toList_ofList]
    · cases stripped
  · intro same
    rw [same,if_pos (List.isPrefixOf_iff_prefix.mpr (List.prefix_append _ _)),List.drop_left,
      String.ofList_toList]

theorem startsWith_iff : startsWith text mark = true ↔ ∃ rest, text = mark ++ rest := by
  rw [startsWith,List.isPrefixOf_iff_prefix]
  constructor
  · rintro ⟨more,same⟩
    refine ⟨String.ofList more,?_⟩
    rw [← String.toList_inj,String.toList_append,String.toList_ofList,same]
  · rintro ⟨rest,rfl⟩
    rw [String.toList_append]
    exact List.prefix_append _ _

theorem isConnectFlag_iff : isConnectFlag token = true ↔
    token = connectFlag ∨ ∃ value, token = connectFlag ++ "=" ++ value := by
  rw [isConnectFlag,Bool.or_eq_true,beq_iff_eq,startsWith_iff]

/-- Which flag a token is, and the value that is joined on. -/
def HarnessFlag.spell (token : String) : Option (HarnessFlag × Option String) :=
  if token = connectFlag then some (.connect,none)
  else match stripPrefix (connectFlag ++ "=") token with
    | some value => some (.connect,some value)
    | none =>
      if token = "--client" then some (.client,none)
      else (stripPrefix "--client=" token).map fun value => (.client,some value)

namespace HarnessFlag

theorem joined_toList (flag : HarnessFlag) (value : String) :
    (flag.name ++ "=" ++ value).toList = flag.name.toList ++ '=' :: value.toList := by
  rw [String.toList_append,String.toList_append,List.append_assoc]
  rfl

theorem name_free (flag : HarnessFlag) : '=' ∉ flag.name.toList := by
  cases flag <;> decide

theorem name_inj {one two : HarnessFlag} (same : one.name = two.name) : one = two := by
  have chars := congrArg String.toList same
  cases one <;> cases two
  · rfl
  · exact absurd chars (by decide)
  · exact absurd chars (by decide)
  · rfl

/-- A flag's name with a value joined on tells the flag and the value. -/
theorem join_inj {one two : HarnessFlag} {first second : String}
    (same : one.name ++ "=" ++ first = two.name ++ "=" ++ second) : one = two ∧ first = second := by
  have chars := congrArg String.toList same
  rw [joined_toList,joined_toList] at chars
  obtain ⟨names,values⟩ := Marks.unique one.name_free two.name_free chars
  exact ⟨name_inj (String.toList_inj.mp names),String.toList_inj.mp values⟩

theorem join_ne_name (one two : HarnessFlag) (value : String) :
    one.name ++ "=" ++ value ≠ two.name := by
  intro same
  apply two.name_free
  rw [← same,joined_toList]
  simp

theorem spell_name (flag : HarnessFlag) : spell flag.name = some (flag,none) := by
  cases flag with
  | connect => simp only [spell,name,if_true]
  | client =>
    have other : client.name ≠ connectFlag := fun same => by cases (name_inj same : client = connect)
    have unjoined : stripPrefix (connectFlag ++ "=") client.name = none := by
      rw [Option.eq_none_iff_forall_not_mem]
      intro value stripped
      exact join_ne_name connect client value (stripPrefix_eq_some.mp stripped).symm
    rw [spell,if_neg other,unjoined]
    simp only [name,if_true]

theorem spell_join (flag : HarnessFlag) (value : String) :
    spell (flag.name ++ "=" ++ value) = some (flag,some value) := by
  have other : flag.name ++ "=" ++ value ≠ connectFlag := flag.join_ne_name connect value
  have other' : flag.name ++ "=" ++ value ≠ "--client" := flag.join_ne_name client value
  cases flag with
  | connect =>
    have stripped : stripPrefix (connectFlag ++ "=") (connect.name ++ "=" ++ value) = some value :=
      stripPrefix_eq_some.mpr rfl
    rw [spell,if_neg other,stripped]
  | client =>
    have unjoined : stripPrefix (connectFlag ++ "=") (client.name ++ "=" ++ value) = none := by
      rw [Option.eq_none_iff_forall_not_mem]
      intro value' stripped
      have same := (stripPrefix_eq_some.mp stripped).symm
      cases (@join_inj connect client value' value same).1
    have stripped : stripPrefix "--client=" (client.name ++ "=" ++ value) = some value :=
      stripPrefix_eq_some.mpr rfl
    rw [spell,if_neg other,unjoined]
    simp only [if_neg other',stripped,Option.map_some]

theorem spell_cases {spelt : HarnessFlag × Option String} (found : spell token = some spelt) :
    token = match spelt.2 with
      | none => spelt.1.name
      | some value => spelt.1.name ++ "=" ++ value := by
  rw [spell] at found
  split at found
  · cases found
    assumption
  · split at found
    · rename_i value stripped
      cases found
      exact stripPrefix_eq_some.mp stripped
    · split at found
      · cases found
        assumption
      · obtain ⟨value,stripped,rfl⟩ := Option.map_eq_some_iff.mp found
        exact stripPrefix_eq_some.mp stripped

/-- The flags of the harness. -/
def spelling : Flags.Spelling HarnessFlag String where
  name := name
  join flag value := flag.name ++ "=" ++ value
  spell := spell
  apart _ flag := ⟨fun found => spell_cases found,fun same => same ▸ spell_name flag⟩
  joined _ flag value :=
    ⟨fun found => spell_cases found,fun same => same ▸ spell_join flag value⟩

end HarnessFlag

/-! ## The scan for the address -/

theorem RemoteAddr.parse_text {addr : RemoteAddr} (parsed : RemoteAddr.parse value = .ok addr) :
    addr.text = value := by
  unfold RemoteAddr.parse at parsed
  split at parsed
  · cases parsed
    rfl
  · cases parsed

/-- A host and a port that is not zero, without whitespace. -/
def HostPort (text : String) : Prop :=
  (∀ c ∈ text.toList, JsonRpcMessage.isWhitespace c = false) ∧
    ∃ host port number, text.toList = host ++ ':' :: port ∧ ':' ∉ port ∧ host ≠ [] ∧
      Origin.parseU16 port = some number ∧ 1 ≤ number

theorem RemoteAddr.check_iff : RemoteAddr.check value = .ok () ↔ HostPort value := by
  unfold RemoteAddr.check HostPort
  by_cases white : value.toList.any JsonRpcMessage.isWhitespace = true
  · rw [if_pos white]
    obtain ⟨c,member,blank⟩ := List.any_eq_true.mp white
    constructor
    · nofun
    · intro shape
      rw [shape.1 c member] at blank
      cases blank
  · rw [if_neg white]
    have clean : ∀ c ∈ value.toList, JsonRpcMessage.isWhitespace c = false := by
      simpa using white
    constructor
    · intro passed
      refine ⟨clean,?_⟩
      split at passed
      · cases passed
      · rename_i host port split
        obtain ⟨whole,last⟩ := Marks.rsplitOnce_iff.mp split
        by_cases none : host.isEmpty = true
        · rw [if_pos none] at passed
          cases passed
        · rw [if_neg none] at passed
          split at passed
          · rename_i numeric
            obtain ⟨number,read,positive⟩ := Option.any_eq_true _ _ |>.mp numeric
            exact ⟨host,port,number,whole,last,by simpa using none,read,of_decide_eq_true positive⟩
          · cases passed
    · rintro ⟨-,host,port,number,whole,last,present,read,positive⟩
      have none : ¬host.isEmpty = true := by simpa using present
      have numeric : (Origin.parseU16 port).any (1 ≤ ·) = true := by simp [read,positive]
      rw [Marks.rsplitOnce_iff.mpr ⟨whole,last⟩]
      simp only [if_neg none,numeric,if_true]

theorem RemoteAddr.text_ne_flag (addr : RemoteAddr) : addr.text ≠ connectFlag := by
  intro same
  obtain ⟨-,host,port,number,whole,-⟩ := RemoteAddr.check_iff.mp addr.checked
  have colon : ':' ∈ addr.text.toList := by simp [whole]
  rw [same] at colon
  exact absurd colon (by decide)

/-- An address is found where none was found before. -/
theorem foundAddr_ok {found next : Option RemoteAddr} (ok : foundAddr found value = .ok next) :
    found = none ∧ value ≠ "" ∧ value ≠ connectFlag ∧ next.toList.map RemoteAddr.text = [value] := by
  unfold foundAddr at ok
  split at ok
  · cases ok
  · rename_i present
    split at ok
    · cases ok
    · rename_i addr parsed
      split at ok
      · cases ok
      · rename_i first
        cases ok
        have text := RemoteAddr.parse_text parsed
        refine ⟨by simpa using first,?_,text ▸ addr.text_ne_flag,by simp [text]⟩
        rintro rfl
        exact present rfl

theorem connect_joined : (stripPrefix connectFlag token).bind (stripPrefix "=") = some value ↔
    HarnessFlag.spell token = some (.connect,some value) := by
  have spelt := HarnessFlag.spelling.joined token .connect value
  refine Iff.trans ?_ spelt.symm
  rw [Option.bind_eq_some_iff]
  constructor
  · rintro ⟨rest,first,second⟩
    rw [stripPrefix_eq_some.mp first,stripPrefix_eq_some.mp second,← String.append_assoc]
    rfl
  · intro same
    refine ⟨"=" ++ value,stripPrefix_eq_some.mpr ?_,stripPrefix_eq_some.mpr rfl⟩
    rw [← String.append_assoc]
    exact same

/-- The values the scan for the address comes upon. -/
def connectValues (args : List String) : List String :=
  (Flags.scan HarnessFlag.spelling .connect args).filterMap Flags.Use.value?

theorem connectValues_flag (args : List String) :
    connectValues (connectFlag :: value :: args) = value :: connectValues args := by
  have spelt := (HarnessFlag.spelling.apart connectFlag .connect).mpr rfl
  rw [connectValues,Flags.scan_apart spelt,if_pos rfl]
  rfl

theorem connectValues_joined {args : List String}
    (joined : (stripPrefix connectFlag token).bind (stripPrefix "=") = some value) :
    connectValues (token :: args) = value :: connectValues args := by
  have spelt : HarnessFlag.spelling.spell token = some (.connect,some value) :=
    connect_joined.mp joined
  rw [connectValues,Flags.scan_joined spelt,if_pos rfl]
  rfl

theorem spells_connect : Flags.spells HarnessFlag.spelling .connect token = true ↔
    token = connectFlag ∨ ∃ value, token = connectFlag ++ "=" ++ value := by
  rw [Flags.spells,Option.any_eq_true]
  constructor
  · rintro ⟨⟨flag,joined⟩,spelt,same⟩
    obtain rfl : flag = .connect := of_decide_eq_true same
    cases joined with
    | none => exact .inl ((HarnessFlag.spelling.apart token _).mp spelt)
    | some value => exact .inr ⟨value,(HarnessFlag.spelling.joined token _ value).mp spelt⟩
  · rintro (same | ⟨value,same⟩)
    · exact ⟨_,(HarnessFlag.spelling.apart token .connect).mpr same,rfl⟩
    · exact ⟨_,(HarnessFlag.spelling.joined token .connect value).mpr same,rfl⟩

theorem connectValues_other {args : List String} (apart : token ≠ connectFlag)
    (unjoined : (stripPrefix connectFlag token).bind (stripPrefix "=") = none) :
    connectValues (token :: args) = connectValues args := by
  have other : Flags.spells HarnessFlag.spelling .connect token = false := by
    rw [Bool.eq_false_iff,ne_eq,spells_connect]
    rintro (same | ⟨value,same⟩)
    · exact apart same
    · have joined := connect_joined.mpr ((HarnessFlag.spelling.joined token .connect value).mpr same)
      rw [unjoined] at joined
      cases joined
  rw [connectValues,Flags.scan_other other]
  rfl

/-- What holds of the scan that found an address, and goes on. -/
structure Scanned (found result : Option RemoteAddr) (values : List String) : Prop where
  address : result.toList.map RemoteAddr.text = found.toList.map RemoteAddr.text ++ values
  filled : ∀ value ∈ values, value ≠ ""

theorem Scanned.takes {found next result : Option RemoteAddr} {values : List String}
    (ok : foundAddr found value = .ok next) (later : Scanned next result values) :
    Scanned found result (value :: values) := by
  obtain ⟨rfl,filled,-,text⟩ := foundAddr_ok ok
  constructor
  · rw [later.address,text]
    rfl
  · intro other member
    rcases List.mem_cons.mp member with rfl | more
    · exact filled
    · exact later.filled other more

/-- What is found is the one value there is. -/
theorem connectFrom_ok {found result : Option RemoteAddr} {args : List String}
    (ok : connectFrom found args = .ok result) :
    Scanned found result (connectValues args) ∧ args.getLast? ≠ some connectFlag := by
  fun_induction connectFrom found args with
  | case1 found =>
    cases ok
    exact ⟨⟨(List.append_nil _).symm,nofun⟩,nofun⟩
  | case2 => cases ok
  | case3 found value args next took ih =>
    obtain ⟨later,last⟩ := ih ok
    rw [connectValues_flag]
    refine ⟨later.takes took,?_⟩
    cases args with
    | nil =>
      have other := (foundAddr_ok took).2.2.1
      simpa using other
    | cons more args => simpa using last
  | case4 => cases ok
  | case5 found arg args apart value joined next took ih =>
    obtain ⟨later,last⟩ := ih ok
    rw [connectValues_joined joined]
    refine ⟨later.takes took,?_⟩
    cases args with
    | nil => simpa using apart
    | cons more args => simpa using last
  | case6 => cases ok
  | case7 found arg args apart unjoined ih =>
    obtain ⟨later,last⟩ := ih ok
    rw [connectValues_other apart unjoined]
    refine ⟨later,?_⟩
    cases args with
    | nil => simpa using apart
    | cons more args => simpa using last

/-! ## The scan for the clients -/

/-- The arguments are flags with their values, and the selectors are the clients' values. -/
def Grouped (selectors all args : List String) : Prop :=
  ∃ groups : List (Flags.Group HarnessFlag String),
    args = groups.flatMap (Flags.Group.tokens HarnessFlag.spelling) ∧
      all = selectors ++ Flags.valuesOf .client groups ∧
      ∀ value ∈ Flags.valuesOf HarnessFlag.client groups, value ≠ ""

theorem Grouped.connect {selectors all args : List String} (grouped : Grouped selectors all args)
    (value : String) (joined : Bool) : Grouped selectors all
      (Flags.Group.tokens HarnessFlag.spelling ⟨.connect,value,joined⟩ ++ args) := by
  obtain ⟨groups,rfl,rfl,filled⟩ := grouped
  exact ⟨⟨.connect,value,joined⟩ :: groups,rfl,rfl,filled⟩

theorem Grouped.client {selectors all args : List String}
    (grouped : Grouped (selectors ++ [value]) all args) (filled : value.isEmpty ≠ true)
    (joined : Bool) : Grouped selectors all
      (Flags.Group.tokens HarnessFlag.spelling ⟨.client,value,joined⟩ ++ args) := by
  obtain ⟨groups,rfl,rfl,others⟩ := grouped
  have values : Flags.valuesOf .client (⟨.client,value,joined⟩ :: groups) =
      value :: Flags.valuesOf .client groups := rfl
  refine ⟨⟨.client,value,joined⟩ :: groups,rfl,?_,?_⟩
  · rw [values,List.append_assoc]
    rfl
  · rw [values]
    intro other member
    rcases List.mem_cons.mp member with rfl | more
    · rintro rfl
      exact filled rfl
    · exact others other more

theorem getLast?_tail {first last : String} {args : List String}
    (other : (first :: args).getLast? ≠ some last) : args.getLast? ≠ some last := by
  cases args with
  | nil => nofun
  | cons more args => simpa using other

namespace HarnessArgs

theorem selectorsFrom_grouped {selectors all args : List String}
    (ok : selectorsFrom selectors args = .ok all) (last : args.getLast? ≠ some connectFlag) :
    Grouped selectors all args := by
  fun_induction selectorsFrom selectors args with
  | case1 selectors =>
    cases ok
    exact ⟨[],rfl,(List.append_nil _).symm,nofun⟩
  | case2 => exact (last rfl).elim
  | case3 selectors value remaining ih =>
    exact (ih ok (getLast?_tail (getLast?_tail last))).connect value false
  | case4 selectors argument remaining apart connect ih =>
    obtain ⟨value,rfl⟩ := (isConnectFlag_iff.mp connect).resolve_left apart
    exact (ih ok (getLast?_tail last)).connect value true
  | case5 => cases ok
  | case6 => cases ok
  | case7 selectors value remaining filled apart other ih =>
    exact (ih ok (getLast?_tail (getLast?_tail last))).client filled false
  | case8 => cases ok
  | case9 selectors argument remaining apart other alone value stripped filled ih =>
    obtain rfl := stripPrefix_eq_some.mp stripped
    exact (ih ok (getLast?_tail last)).client filled true
  | case10 => cases ok

/-- The two scans divide the arguments: these are flags with their values, the selectors and
the address are the values of their flags, and the scan for `--connect` uses the tokens that
the scan for `--client` does not. -/
structure Agrees (args : List String) (parsed : HarnessArgs) : Prop where
  groups : ∃ groups : List (Flags.Group HarnessFlag String),
    args = groups.flatMap (Flags.Group.tokens HarnessFlag.spelling) ∧
      (∀ group ∈ groups, group.value ≠ "") ∧
      parsed.selectors = Flags.valuesOf .client groups ∧
      parsed.connect.toList.map RemoteAddr.text = Flags.valuesOf .connect groups
  apart : (Flags.scan HarnessFlag.spelling .connect args).map Flags.Use.used =
    (Flags.skim HarnessFlag.spelling .client args).map fun use => !use.used

/-- A token of a group is of use to one flag or to the other. -/
theorem uses_apart (groups : List (Flags.Group HarnessFlag String)) :
    (groups.flatMap (Flags.Group.uses .connect)).map Flags.Use.used =
      (groups.flatMap (Flags.Group.uses .client)).map fun use => !use.used := by
  rw [List.map_flatMap,List.map_flatMap]
  congr 1
  funext ⟨flag,value,joined⟩
  cases flag <;> cases joined <;> rfl

theorem parse_ok {args : List String} {result : HarnessArgs} (parsed : parse args = .ok result) :
    connectFrom none args = .ok result.connect ∧ selectorsFrom [] args = .ok result.selectors := by
  unfold parse connectFromArgs at parsed
  split at parsed
  · cases parsed
  · rename_i connect connected
    split at parsed
    · cases parsed
    · rename_i selectors selected
      cases parsed
      exact ⟨connected,selected⟩

/-- Arguments that parse are divided by the two scans exactly when no `--client` is followed
by a `--connect`, in either spelling, for its value. -/
theorem parse_agrees_iff {args : List String} {result : HarnessArgs}
    (parsed : parse args = .ok result) : Agrees args result ↔
      Flags.swallows HarnessFlag.spelling .connect args = false := by
  obtain ⟨connected,selected⟩ := parse_ok parsed
  obtain ⟨scanned,last⟩ := connectFrom_ok connected
  obtain ⟨groups,rfl,selectors,filled⟩ := selectorsFrom_grouped selected last
  rw [Flags.swallows_groups]
  constructor
  · intro law
    apply Flags.clear_of_used
    rw [law.apart,Flags.skim_groups,uses_apart]
  · intro clear
    have values : connectValues (groups.flatMap (Flags.Group.tokens HarnessFlag.spelling)) =
        Flags.valuesOf .connect groups := by
      rw [connectValues,Flags.scan_groups clear,Flags.uses_values]
    rw [values] at scanned
    refine ⟨⟨groups,rfl,fun group member => ?_,selectors,scanned.address⟩,?_⟩
    · have listed : group.value ∈ Flags.valuesOf group.flag groups :=
        List.mem_map_of_mem (List.mem_filter.mpr ⟨member,decide_eq_true rfl⟩)
      cases flag : group.flag with
      | client => exact filled group.value (flag ▸ listed)
      | connect => exact scanned.filled group.value (flag ▸ listed)
    · rw [Flags.scan_groups clear,Flags.skim_groups,uses_apart]

/-- Both flags, in both spellings. -/
theorem mixed_agrees : ∃ result,
    parse ["--connect","h:1","--client","cursor","--client=codex"] = .ok result ∧
      result.selectors = ["cursor","codex"] ∧
      Agrees ["--connect","h:1","--client","cursor","--client=codex"] result :=
  ⟨_,rfl,rfl,(parse_agrees_iff rfl).mpr (by decide)⟩

/-- A client that is named like the other flag: the token is a name and an address. -/
theorem swallowed_disagrees : ∃ result, parse ["--client","--connect=h:1"] = .ok result ∧
    result.selectors = ["--connect=h:1"] ∧ result.connect.map RemoteAddr.text = some "h:1" ∧
    ¬Agrees ["--client","--connect=h:1"] result := by
  refine ⟨_,rfl,rfl,rfl,fun law => ?_⟩
  exact absurd law.apart (by decide)

end HarnessArgs

end SmlMcps
