import SmlMcps.Http1Connection

/-! The passes of a connection's read loops: for each, what the clock showed when the
deadline was checked and when the socket's timeout was last set, and the wire as its
buffer is filled. The lists follow the loops over the states the loops go through, and
account for every arrival the loops use up. -/
namespace SmlMcps.Http1

/-- One turn of a loop that reads. `clock` is the deadline it runs under: none while the
connection is idle. A pass is `retried` when it repeats one that a signal cut short. -/
structure Pass where
  clock : Option Deadline
  retried : Bool
  checked : Nat
  armedAt : Nat
  wire : Wire

namespace Pass

/-- The check found the budget spent, and the loop ends without reading. -/
def spent (pass : Pass) : Bool := pass.clock.any fun deadline => deadline.instant ≤ pass.checked

/-- The pass starts a read of the socket: what is buffered needs none. -/
def reads (pass : Pass) : Bool := !pass.spent && pass.wire.buffer.isEmpty

def started (pass : Pass) : Nat := pass.wire.now
def timeout (pass : Pass) : Nat := pass.wire.armed
def outcome (pass : Pass) : Except ErrorKind (List UInt8) := pass.wire.fillBuf.1
def ended (pass : Pass) : Nat := pass.wire.fillBuf.2.now

/-- The time between the check and the arming, whichever came first. -/
def gap (pass : Pass) : Nat := (pass.checked - pass.armedAt) + (pass.armedAt - pass.checked)

/-- What the clock shows once the pass has brought what it brings. -/
def takenUp (pass : Pass) : Nat := pass.wire.fillBuf.2.instantNow.1

end Pass

/-- The arrival a filling of the buffer uses up. -/
def Wire.taken (wire : Wire) : List Arrival :=
  match wire.buffer, wire.arriving with
  | [], arrival :: _ => if wire.now + wire.armed < arrival.instant then [] else [arrival]
  | _, _ => []

def Pass.taken (pass : Pass) : List Arrival := if pass.spent then [] else pass.wire.taken

/-! ## The loops -/

/-- The pass that `fill` makes: the socket is armed after the check, also in a repetition. -/
def Deadline.pass (deadline : Deadline) (wire : Wire) : Pass :=
  { clock := some deadline
    retried := false
    checked := (deadline.expired wire).2.now
    armedAt := (deadline.arm (deadline.expired wire).2).now
    wire := deadline.arm (deadline.expired wire).2 }

def exactlyPasses (outstanding : Nat) (deadline : Deadline) (wire : Wire) : List Pass :=
  if outstanding = 0 then []
  else deadline.pass wire :: match _ : deadline.fill wire with
    | (.error .interrupted,next) => exactlyPasses outstanding deadline next
    | (.error _,_) => []
    | (.ok available,next) =>
      if available = [] then []
      else
        let take := min available.length outstanding
        exactlyPasses (outstanding - take) deadline (next.consume take)
termination_by wire.weight
decreasing_by
  · rename_i filled
    exact Deadline.fill_interrupted filled
  · rename_i filled present
    have some : 0 < available.length := List.length_pos_iff.mpr present
    exact Deadline.fill_consumed filled (by omega) (by omega)

def lineBytesPasses (budget : Nat) (raw : List UInt8) (deadline : Deadline) (wire : Wire) :
    List Pass :=
  deadline.pass wire :: match _ : deadline.fill wire with
    | (.error .interrupted,next) => lineBytesPasses budget raw deadline next
    | (.error _,_) => []
    | (.ok available,next) =>
      if available = [] then []
      else
        let take := lineTake available budget
        let grown := raw ++ available.take take
        if grown.getLast? = some lf then []
        else if budget - take = 0 then []
        else lineBytesPasses (budget - take) grown deadline (next.consume take)
termination_by wire.weight
decreasing_by
  · rename_i filled
    exact Deadline.fill_interrupted filled
  · rename_i filled present _ room
    have bound := (lineTake_cases available budget).1
    exact Deadline.fill_consumed filled (lineTake_positive present (by omega)) (by omega)

def linePasses (budget : Nat) (deadline : Deadline) (wire : Wire) : List Pass :=
  if budget = 0 then [] else lineBytesPasses budget [] deadline wire

def trailersPasses : (left : Nat) → Deadline → Wire → List Pass
  | 0, _, _ => []
  | left + 1, deadline, wire =>
    linePasses chunkLineBytes deadline wire ++
      match readLine chunkLineBytes deadline wire with
      | (line,next) =>
        match trailerLine line with
        | .ok false => trailersPasses left deadline next
        | _ => []

def chunkedPasses (crate : Httparse) (limit : Nat) (deadline : Deadline) (body : List UInt8)
    (wire : Wire) : List Pass :=
  linePasses chunkLineBytes deadline wire ++
    match _ : readChunkSize crate deadline wire with
    | (.error _,_) => []
    | (.ok size,afterSize) =>
      if size = 0 then trailersPasses (maxTrailers + 1) deadline afterSize
      else if limit - body.length < size then []
      else exactlyPasses size deadline afterSize ++
        match _ : readExactly size body deadline afterSize with
        | (.error _,_) => []
        | (.ok grown,afterData) => linePasses 2 deadline afterData ++
          match _ : readChunkEnd deadline afterData with
          | (.error _,_) => []
          | (.ok (),next) => chunkedPasses crate limit deadline grown next
termination_by wire.stream.length
decreasing_by
  rename_i sized present _ data ended
  obtain ⟨text,front,-⟩ := readChunkSize_ok sized
  obtain ⟨taken,length,-,rest⟩ := readExactly_ok data
  rw [front,rest,readChunkEnd_ok ended]
  simp only [List.length_append]
  omega

/-- A round of reading a head: the socket was armed before the check, in the last round
that brought bytes. -/
def headPass (clock : Option Deadline) (armedAt : Nat) (retried : Bool) (wire : Wire) : Pass :=
  { clock, retried, checked := (overdue clock wire).2.now, armedAt,
    wire := (overdue clock wire).2 }

def headPasses (crate : Httparse) (limits : Limits) (raw : List UInt8) (consumed : Nat)
    (clock : Option Deadline) (armedAt : Nat) (retried : Bool) (wire : Wire) : List Pass :=
  if limits.maxHeadBytes ≤ raw.length then []
  else
    headPass clock armedAt retried wire ::
      if (overdue clock wire).1 then []
      else match _ : (overdue clock wire).2.fillBuf with
        | (.error .interrupted,next) =>
          headPasses crate limits raw consumed clock armedAt true next
        | (.error _,_) => []
        | (.ok available,next) =>
          if available = [] then []
          else
            let take := min available.length (limits.maxHeadBytes - raw.length)
            let gathered := raw ++ available.take take
            let started := running clock limits next
            if maxLeadingBlankLines <
                blankLinesBeforeARequest (maxLeadingBlankLines + 1) gathered then []
            else match askParser crate limits (available.take take) gathered with
              | .incomplete => headPasses crate limits gathered (consumed + take)
                  (some started.1) started.2.now false (started.2.consume take)
              | _ => []
termination_by wire.weight
decreasing_by
  · rename_i filled
    have used := Wire.fillBuf_interrupted filled
    rwa [Wire.weight_congr overdue_buffer overdue_arriving] at used
  · rename_i filled present _
    have some : 0 < available.length := List.length_pos_iff.mpr present
    have whole : started.2.buffer.length = available.length := by
      rw [running_buffer,Wire.fillBuf_ok filled]
    have room : take ≤ available.length := Nat.min_le_left _ _
    have smaller := started.2.consume_weight take (by omega)
    have kept := (overdue clock wire).2.fillBuf_weight.1
    rw [filled,Wire.weight_congr overdue_buffer overdue_arriving] at kept
    have same : started.2.weight = next.weight :=
      Wire.weight_congr running_buffer running_arriving
    change next.weight ≤ wire.weight at kept
    change (started.2.consume take).weight < wire.weight
    omega

/-! ## A request and a connection -/

def Body.whenSentPasses (body : Body) (passes : Deadline → Wire → List Pass) (wire : Wire) :
    List Pass :=
  match body.sendContinue wire with
  | (.error _,_,_) => []
  | (.ok (),body,next) => passes body.deadline next

/-- The passes of one attempt at a body. -/
def Body.readPasses (crate : Httparse) (limit : Nat) (body : Body) (wire : Wire) : List Pass :=
  if body.started then []
  else
    let body := { body with started := true }
    match body.framing with
    | .empty => []
    | .length declared =>
      if limit < declared then [] else body.whenSentPasses (exactlyPasses declared) wire
    | .chunked =>
      body.whenSentPasses (fun deadline => chunkedPasses crate limit deadline []) wire

def Body.drainPasses (limit : Nat) (body : Body) (wire : Wire) : List Pass :=
  if body.started || body.finished then []
  else if body.mustSendContinue then []
  else match body.framing with
    | .empty | .chunked => []
    | .length declared => if limit < declared then [] else exactlyPasses declared body.deadline wire

def Handling.passes (crate : Httparse) : Handling → Body → Wire → List Pass
  | .readBody limit next, body, wire =>
    let read := body.read crate limit wire
    body.readPasses crate limit wire ++ (next read.1).passes crate read.2.1 read.2.2
  | .pause took next, body, wire => next.passes crate body { wire with now := wire.now + took }
  | .respond _, _, _ | .panic, _, _ => []

section
variable (crate : Httparse) (limits : Limits)

/-- The passes over a request's body, whoever reads or drains it. -/
def bodyPasses (handling : Handling) (head : Head) (deadline : Deadline) (wire : Wire) :
    List Pass :=
  let body : Body :=
    { framing := head.framing, mustSendContinue := head.expectsContinue,
      finished := head.framing = .empty, started := false, deadline,
      writeTimeout := limits.writeTimeout }
  let ran := handling.run crate body wire
  handling.passes crate body wire ++ ran.body.drainPasses limits.maxBodyBytes ran.wire

/-- The passes of each turn of a connection. A socket that is waited on for a request is
on the idle timeout. -/
def connectionPasses (handle : Nat → Head → Handling) :
    (rounds : Nat) → (served : Nat) → Wire → List (List Pass)
  | 0, _, _ => []
  | rounds + 1, served, wire =>
    let idle := wire.armRead limits.idleTimeout
    let head := headPasses crate limits [] 0 none idle.now false idle
    match readHead crate limits [] 0 none idle with
    | (.ok none,_) | (.error _,_) => [head]
    | (.ok (some (started,deadline)),next) =>
      let request := head ++ bodyPasses crate limits (handle served started) started deadline next
      match serveRequest crate limits (handle served started) started deadline next with
      | (_,false,_) => [request]
      | (_,true,next) => request :: connectionPasses handle rounds (served + 1) next

end

/-! ## Every arrival that is used up is taken by a pass -/

section
variable {deadline : Deadline} {wire next : Wire} {clock : Option Deadline} {limits : Limits}
  {crate : Httparse}

@[simp] theorem Wire.instantNow_now (wire : Wire) : wire.instantNow.2.now = wire.instantNow.1 := by
  simp only [Wire.instantNow]
  split <;> rfl

@[simp] theorem Wire.consume_arriving (wire : Wire) (count : Nat) :
    (wire.consume count).arriving = wire.arriving := rfl

theorem Deadline.pass_spent (deadline : Deadline) (wire : Wire) :
    (deadline.pass wire).spent = (deadline.expired wire).1 := by
  simp [pass,Pass.spent,expired]

/-- The pass of a filling is what the filling does. -/
theorem Deadline.fill_pass (deadline : Deadline) (wire : Wire) :
    deadline.fill wire = if (deadline.pass wire).spent
      then (.error .timedOut,(deadline.expired wire).2)
      else (deadline.pass wire).wire.fillBuf := by
  rw [deadline.pass_spent wire]
  rfl

theorem Wire.fillBuf_taken (wire : Wire) :
    wire.arriving = wire.taken ++ wire.fillBuf.2.arriving := by
  by_cases empty : wire.buffer = []
  · cases pending : wire.arriving with
    | nil => simp [taken,fillBuf,receive,empty,pending]
    | cons arrival later =>
      by_cases late : wire.now + wire.armed < arrival.instant
      · simp [taken,fillBuf,receive,empty,pending,late]
      · simp [taken,fillBuf,receive,empty,pending,late]
  · simp [taken,fillBuf,empty]

/-- A filling uses up what its pass takes, and nothing else. -/
theorem Deadline.fill_taken {result : Except ErrorKind (List UInt8)} {middle : Wire}
    (filled : deadline.fill wire = (result,middle)) :
    wire.arriving = (deadline.pass wire).taken ++ middle.arriving := by
  rw [deadline.fill_pass wire] at filled
  by_cases spent : (deadline.pass wire).spent
  · rw [if_pos spent] at filled
    cases filled
    simp [Pass.taken,spent]
  · rw [if_neg spent] at filled
    have kept : (deadline.pass wire).wire.arriving = wire.arriving := by
      simp [Deadline.pass]
    have moved := (deadline.pass wire).wire.fillBuf_taken
    rw [filled,kept] at moved
    rw [moved]
    simp [Pass.taken,spent]

theorem exactlyPasses_cons {outstanding : Nat} (more : outstanding ≠ 0) :
    exactlyPasses outstanding deadline wire = deadline.pass wire :: match deadline.fill wire with
      | (.error .interrupted,next) => exactlyPasses outstanding deadline next
      | (.error _,_) => []
      | (.ok available,next) => if available = [] then [] else
          exactlyPasses (outstanding - min available.length outstanding) deadline
            (next.consume (min available.length outstanding)) := by
  rw [exactlyPasses,if_neg more]
  split <;> rename_i filled <;> simp only [filled]

theorem exactlyPasses_taken (outstanding : Nat) (into : List UInt8) (deadline : Deadline)
    (wire : Wire) : wire.arriving = (exactlyPasses outstanding deadline wire).flatMap Pass.taken ++
      (readExactly outstanding into deadline wire).2.arriving := by
  fun_induction readExactly outstanding into deadline wire with
  | case1 into wire => simp [exactlyPasses]
  | case2 outstanding into wire more middle filled again =>
    rw [exactlyPasses_cons more,filled,List.flatMap_cons,List.append_assoc,← again]
    exact Deadline.fill_taken filled
  | case3 outstanding into wire more kind middle stops filled =>
    rw [exactlyPasses_cons more,filled]
    simpa using Deadline.fill_taken filled
  | case4 outstanding into wire more middle filled =>
    rw [exactlyPasses_cons more,filled]
    simpa using Deadline.fill_taken filled
  | case5 outstanding into wire more available middle filled present take again =>
    rw [exactlyPasses_cons more,filled,List.flatMap_cons]
    simp only [present,if_false]
    rw [List.append_assoc,← again,Wire.consume_arriving]
    exact Deadline.fill_taken filled

theorem lineBytesPasses_cons (budget : Nat) (raw : List UInt8) (deadline : Deadline)
    (wire : Wire) :
    lineBytesPasses budget raw deadline wire =
      deadline.pass wire :: match deadline.fill wire with
      | (.error .interrupted,next) => lineBytesPasses budget raw deadline next
      | (.error _,_) => []
      | (.ok available,next) => if available = [] then [] else
          let take := lineTake available budget
          let grown := raw ++ available.take take
          if grown.getLast? = some lf then []
          else if budget - take = 0 then []
          else lineBytesPasses (budget - take) grown deadline (next.consume take) := by
  rw [lineBytesPasses]
  split <;> rename_i filled <;> simp only [filled]

theorem lineBytesPasses_taken (budget : Nat) (raw : List UInt8) (deadline : Deadline)
    (wire : Wire) :
    wire.arriving = (lineBytesPasses budget raw deadline wire).flatMap Pass.taken ++
      (readLineBytes budget raw deadline wire).2.arriving := by
  fun_induction readLineBytes budget raw deadline wire with
  | case1 budget raw wire middle filled again =>
    rw [lineBytesPasses_cons,filled,List.flatMap_cons,List.append_assoc,← again]
    exact Deadline.fill_taken filled
  | case2 budget raw wire kind middle stops filled =>
    rw [lineBytesPasses_cons,filled]
    simpa using Deadline.fill_taken filled
  | case3 budget raw wire middle filled =>
    rw [lineBytesPasses_cons,filled]
    simpa using Deadline.fill_taken filled
  | case4 budget raw wire available middle filled present take grown last =>
    rw [lineBytesPasses_cons,filled]
    simp only [present,if_false,List.flatMap_cons]
    rw [if_pos last]
    simpa using Deadline.fill_taken filled
  | case5 budget raw wire available middle filled present take grown last full =>
    rw [lineBytesPasses_cons,filled]
    simp only [present,if_false,List.flatMap_cons]
    rw [if_neg last,if_pos full]
    simpa using Deadline.fill_taken filled
  | case6 budget raw wire available middle filled present take grown last room again =>
    rw [lineBytesPasses_cons,filled]
    simp only [present,if_false,List.flatMap_cons]
    rw [if_neg last,if_neg room,List.append_assoc,← again,Wire.consume_arriving]
    exact Deadline.fill_taken filled

theorem linePasses_taken (budget : Nat) (deadline : Deadline) (wire : Wire) :
    wire.arriving = (linePasses budget deadline wire).flatMap Pass.taken ++
      (readLine budget deadline wire).2.arriving := by
  have bytes := lineBytesPasses_taken budget [] deadline wire
  by_cases nothing : budget = 0
  · simp [linePasses,readLine,nothing]
  · simp only [linePasses,readLine,nothing,if_false]
    rcases read : readLineBytes budget [] deadline wire with ⟨_ | ⟨raw,terminated⟩,next⟩
    · simpa only [read] using bytes
    · simpa only [read] using bytes

theorem trailersPasses_taken (left : Nat) (deadline : Deadline) (wire : Wire) :
    wire.arriving = (trailersPasses left deadline wire).flatMap Pass.taken ++
      (readTrailers left deadline wire).2.arriving := by
  induction left generalizing wire with
  | zero => rfl
  | succ left ih =>
    have line := linePasses_taken chunkLineBytes deadline wire
    rcases taken : readLine chunkLineBytes deadline wire with ⟨outcome,middle⟩
    rw [taken] at line
    rcases said : trailerLine outcome with e | _ | _
    · simpa [trailersPasses,readTrailers,taken,said] using line
    · simp only [trailersPasses,readTrailers,taken,said,List.flatMap_append]
      rw [List.append_assoc,← ih middle]
      exact line
    · simpa [trailersPasses,readTrailers,taken,said] using line

theorem chunkedPasses_eq (crate : Httparse) (limit : Nat) (deadline : Deadline)
    (body : List UInt8) (wire : Wire) :
    chunkedPasses crate limit deadline body wire = linePasses chunkLineBytes deadline wire ++
      match readChunkSize crate deadline wire with
      | (.error _,_) => []
      | (.ok size,afterSize) =>
        if size = 0 then trailersPasses (maxTrailers + 1) deadline afterSize
        else if limit - body.length < size then []
        else exactlyPasses size deadline afterSize ++
          match readExactly size body deadline afterSize with
          | (.error _,_) => []
          | (.ok grown,afterData) => linePasses 2 deadline afterData ++
            match readChunkEnd deadline afterData with
            | (.error _,_) => []
            | (.ok (),next) => chunkedPasses crate limit deadline grown next := by
  rw [chunkedPasses]
  congr 1
  split <;> rename_i sized <;> simp only [sized]
  congr 2
  split <;> rename_i data <;> simp only [data]
  congr 1
  split <;> rename_i ended <;> simp only [ended]

theorem chunkSizePasses_taken {outcome : Except BodyError Nat} {middle : Wire}
    (sized : readChunkSize crate deadline wire = (outcome,middle)) :
    wire.arriving = (linePasses chunkLineBytes deadline wire).flatMap Pass.taken ++
      middle.arriving := by
  have left : (readLine chunkLineBytes deadline wire).2 = middle := congrArg Prod.snd sized
  rw [linePasses_taken chunkLineBytes deadline wire,left]

theorem chunkEndPasses_taken (deadline : Deadline) (wire : Wire) :
    wire.arriving = (linePasses 2 deadline wire).flatMap Pass.taken ++
      (readChunkEnd deadline wire).2.arriving :=
  linePasses_taken 2 deadline wire

theorem chunkedPasses_taken (crate : Httparse) (limit : Nat) (deadline : Deadline)
    (body : List UInt8) (wire : Wire) :
    wire.arriving = (chunkedPasses crate limit deadline body wire).flatMap Pass.taken ++
      (readChunked crate limit deadline body wire).2.arriving := by
  fun_induction readChunked crate limit deadline body wire with
  | case1 body wire e middle sized =>
    have line := chunkSizePasses_taken sized
    rw [chunkedPasses_eq,sized]
    simpa using line
  | case2 body wire afterSize e middle trailers sized =>
    have line := chunkSizePasses_taken sized
    rw [trailersPasses_taken (maxTrailers + 1) deadline afterSize,trailers] at line
    rw [chunkedPasses_eq,sized]
    simpa using line
  | case3 body wire afterSize middle trailers sized =>
    have line := chunkSizePasses_taken sized
    rw [trailersPasses_taken (maxTrailers + 1) deadline afterSize,trailers] at line
    rw [chunkedPasses_eq,sized]
    simpa using line
  | case4 body wire size afterSize sized present large =>
    have line := chunkSizePasses_taken sized
    rw [chunkedPasses_eq,sized]
    simpa [present,large] using line
  | case5 body wire size afterSize sized present room e middle data =>
    have line := chunkSizePasses_taken sized
    rw [exactlyPasses_taken size body deadline afterSize,data] at line
    rw [chunkedPasses_eq,sized]
    simpa [present,room,data] using line
  | case6 body wire size afterSize sized present room grown afterData data e middle ended =>
    have line := chunkSizePasses_taken sized
    rw [exactlyPasses_taken size body deadline afterSize,data,
      chunkEndPasses_taken deadline afterData,ended] at line
    rw [chunkedPasses_eq,sized]
    simpa [present,room,data,ended] using line
  | case7 body wire size afterSize sized present room grown afterData data middle ended again =>
    have line := chunkSizePasses_taken sized
    rw [exactlyPasses_taken size body deadline afterSize,data,
      chunkEndPasses_taken deadline afterData,ended,again] at line
    rw [chunkedPasses_eq,sized]
    simpa [present,room,data,ended] using line

/-- A check of the clock is the pass's own. -/
theorem headPass_spent (clock : Option Deadline) (armedAt : Nat) (retried : Bool) (wire : Wire) :
    (headPass clock armedAt retried wire).spent = (overdue clock wire).1 := by
  cases clock with
  | none => rfl
  | some deadline => simp [headPass,Pass.spent,overdue,Deadline.expired]

theorem headPasses_cons {raw : List UInt8} (room : raw.length < limits.maxHeadBytes)
    (consumed armedAt : Nat) (retried : Bool) (clock : Option Deadline) (wire : Wire) :
    headPasses crate limits raw consumed clock armedAt retried wire =
      headPass clock armedAt retried wire :: if (overdue clock wire).1 then [] else
        match (overdue clock wire).2.fillBuf with
        | (.error .interrupted,next) =>
            headPasses crate limits raw consumed clock armedAt true next
        | (.error _,_) => []
        | (.ok available,next) => if available = [] then [] else
            let take := min available.length (limits.maxHeadBytes - raw.length)
            let gathered := raw ++ available.take take
            let started := running clock limits next
            if maxLeadingBlankLines <
                blankLinesBeforeARequest (maxLeadingBlankLines + 1) gathered then []
            else match askParser crate limits (available.take take) gathered with
              | .incomplete => headPasses crate limits gathered (consumed + take)
                  (some started.1) started.2.now false (started.2.consume take)
              | _ => [] := by
  rw [headPasses,if_neg (by omega)]
  congr 2
  split <;> rename_i filled <;> simp only [filled]

theorem headPass_late {armedAt : Nat} {retried : Bool} (late : (overdue clock wire).1 = true) :
    wire.arriving = (headPass clock armedAt retried wire).taken ++ (overdue clock wire).2.arriving := by
  simp [Pass.taken,headPass_spent,late]

theorem headPass_filled {armedAt : Nat} {retried : Bool} {result : Except ErrorKind (List UInt8)} {middle : Wire}
    (inTime : ¬(overdue clock wire).1 = true)
    (filled : (overdue clock wire).2.fillBuf = (result,middle)) :
    wire.arriving = (headPass clock armedAt retried wire).taken ++ middle.arriving := by
  have kept : (overdue clock wire).2.arriving = wire.arriving := overdue_arriving
  have moved := (overdue clock wire).2.fillBuf_taken
  rw [filled,kept] at moved
  rw [Pass.taken,headPass_spent,if_neg inTime]
  exact moved

theorem headPasses_taken (crate : Httparse) (limits : Limits) (raw : List UInt8)
    (consumed armedAt : Nat) (retried : Bool) (clock : Option Deadline) (wire : Wire) :
    wire.arriving =
      (headPasses crate limits raw consumed clock armedAt retried wire).flatMap Pass.taken ++
        (readHead crate limits raw consumed clock wire).2.arriving := by
  fun_induction readHead crate limits raw consumed clock wire generalizing armedAt retried with
  | case1 raw consumed clock wire full =>
    rw [headPasses,if_pos full]
    rfl
  | case2 raw consumed clock wire full late =>
    rw [headPasses_cons (by omega),if_pos late]
    simpa using headPass_late late
  | case3 raw consumed clock wire full inTime middle filled again =>
    rw [headPasses_cons (by omega),if_neg inTime,filled,List.flatMap_cons,List.append_assoc,
      ← again]
    exact headPass_filled inTime filled
  | case4 raw consumed clock wire full inTime kind middle stops filled =>
    rw [headPasses_cons (by omega),if_neg inTime,filled]
    simpa using headPass_filled inTime filled
  | case5 raw consumed clock wire full inTime middle filled =>
    rw [headPasses_cons (by omega),if_neg inTime,filled]
    simpa using headPass_filled inTime filled
  | case6 raw consumed clock wire full inTime available middle filled present take gathered
      started blank =>
    rw [headPasses_cons (by omega),if_neg inTime,filled]
    simp only [present,if_false]
    rw [if_pos blank]
    simpa [started] using headPass_filled inTime filled
  | case7 raw consumed clock wire full inTime available middle filled present take gathered
      started blank length parsed asked =>
    rw [headPasses_cons (by omega),if_neg inTime,filled]
    simp only [present,if_false]
    rw [if_neg blank,asked]
    simpa [started] using headPass_filled inTime filled
  | case8 raw consumed clock wire full inTime available middle filled present take gathered
      started blank e asked =>
    rw [headPasses_cons (by omega),if_neg inTime,filled]
    simp only [present,if_false]
    rw [if_neg blank,asked]
    simpa [started] using headPass_filled inTime filled
  | case9 raw consumed clock wire full inTime available middle filled present take gathered
      started blank asked again =>
    rw [headPasses_cons (by omega),if_neg inTime,filled]
    simp only [present,if_false]
    rw [if_neg blank,asked,List.flatMap_cons,List.append_assoc,← again started.2.now false]
    simpa [started] using headPass_filled inTime filled

theorem sendContinue_arriving (body : Body) (wire : Wire) :
    (body.sendContinue wire).2.2.arriving = wire.arriving := by
  by_cases waits : body.mustSendContinue
  · simp [Body.sendContinue,waits]
  · simp [Body.sendContinue,waits]

theorem hand_arriving (body : Body) (taken : Except BodyError (List UInt8) × Wire) :
    (body.hand taken).2.2.arriving = taken.2.arriving := by
  obtain ⟨_ | bytes,next⟩ := taken
  · rfl
  · simp only [Body.hand]
    split <;> rfl

/-- What is taken once the peer was told to send it is what the taking's passes take. -/
theorem whenSent_taken (body : Body) (wire : Wire) {passes : Deadline → Wire → List Pass}
    {take : Deadline → Wire → Except BodyError (List UInt8) × Wire}
    (accounted : ∀ deadline wire,
      wire.arriving = (passes deadline wire).flatMap Pass.taken ++ (take deadline wire).2.arriving) :
    wire.arriving = (body.whenSentPasses passes wire).flatMap Pass.taken ++
      (body.whenSent take wire).2.2.arriving := by
  have kept := sendContinue_arriving body wire
  rcases sent : body.sendContinue wire with ⟨_ | _,after,next⟩
  · simpa [Body.whenSent,Body.whenSentPasses,sent] using kept.symm
  · rw [sent] at kept
    simp only [Body.whenSent,Body.whenSentPasses,sent,hand_arriving]
    rw [← kept]
    exact accounted after.deadline next

theorem readPasses_taken (crate : Httparse) (limit : Nat) (body : Body) (wire : Wire) :
    wire.arriving = (body.readPasses crate limit wire).flatMap Pass.taken ++
      (body.read crate limit wire).2.2.arriving := by
  obtain ⟨framing,continues,finished,started,deadline,writeTimeout⟩ := body
  cases started with
  | true => simp [Body.readPasses,Body.read]
  | false =>
    simp only [Body.readPasses,Body.read,Bool.false_eq_true,if_false]
    cases framing with
    | empty => rfl
    | length declared =>
      by_cases large : limit < declared
      · simp [large]
      · simp only [large,if_false]
        exact whenSent_taken _ wire (exactlyPasses_taken declared [])
    | chunked =>
      exact whenSent_taken _ wire fun deadline => chunkedPasses_taken crate limit deadline []

theorem drainPasses_taken (limit : Nat) (body : Body) (wire : Wire) :
    wire.arriving = (body.drainPasses limit wire).flatMap Pass.taken ++
      (body.drainIfCheap limit wire).2.arriving := by
  by_cases attempted : body.started || body.finished
  · simp only [Body.drainPasses,Body.drainIfCheap,attempted,if_true]
    rfl
  by_cases waits : body.mustSendContinue
  · simp only [Body.drainPasses,Body.drainIfCheap,attempted,waits,Bool.false_eq_true,if_false,
      if_true]
    rfl
  simp only [Body.drainPasses,Body.drainIfCheap,attempted,waits,Bool.false_eq_true,if_false]
  cases framed : body.framing with
  | empty | chunked => rfl
  | length declared =>
    by_cases large : limit < declared
    · simp [large]
    · have exact' := exactlyPasses_taken declared [] body.deadline wire
      simp only [large,if_false]
      rcases data : readExactly declared [] body.deadline wire with ⟨_ | bytes,next⟩
      · simpa only [data] using exact'
      · simpa only [data] using exact'

theorem handlingPasses_taken (crate : Httparse) (handling : Handling) (body : Body)
    (wire : Wire) : wire.arriving = (handling.passes crate body wire).flatMap Pass.taken ++
      (handling.run crate body wire).wire.arriving := by
  induction handling generalizing body wire with
  | readBody limit next ih =>
    simp only [Handling.passes,Handling.run,List.flatMap_append]
    rw [List.append_assoc,← ih (body.read crate limit wire).1]
    exact readPasses_taken crate limit body wire
  | pause took next ih => exact ih body { wire with now := wire.now + took }
  | respond response => rfl
  | panic => rfl

theorem bodyPasses_taken (crate : Httparse) (limits : Limits) (handling : Handling) (head : Head)
    (deadline : Deadline) (wire : Wire) :
    wire.arriving = (bodyPasses crate limits handling head deadline wire).flatMap Pass.taken ++
      (serveRequest crate limits handling head deadline wire).2.2.arriving := by
  simp only [bodyPasses,serveRequest,List.flatMap_append,writeResponse,Wire.writeAll_arriving,
    Wire.armWrite_arriving]
  rw [List.append_assoc,← drainPasses_taken]
  exact handlingPasses_taken crate handling _ wire

/-- Whatever a connection uses up of what its peer sends was taken by one of its passes:
no read is missing from them. -/
theorem connectionPasses_taken (crate : Httparse) (limits : Limits)
    (handle : Nat → Head → Handling) (rounds served : Nat) (wire : Wire) :
    wire.arriving =
      (connectionPasses crate limits handle rounds served wire).flatten.flatMap Pass.taken ++
        (serveConnection crate limits handle rounds served wire).2.arriving := by
  induction rounds generalizing served wire with
  | zero => rfl
  | succ rounds ih =>
    let idle := wire.armRead limits.idleTimeout
    have head : wire.arriving = _ := headPasses_taken crate limits [] 0 idle.now false none idle
    rcases asked : readHead crate limits [] 0 none idle with
      ⟨response | _ | ⟨started,deadline⟩,middle⟩
    · rw [asked] at head
      simpa [connectionPasses,serveConnection,idle,asked,writeResponse] using head
    · rw [asked] at head
      simpa [connectionPasses,serveConnection,idle,asked] using head
    · rw [asked,bodyPasses_taken crate limits (handle served started) started deadline middle]
        at head
      rcases answered : serveRequest crate limits (handle served started) started deadline middle
        with ⟨exchange,_ | _,next⟩
      · rw [answered] at head
        simpa [connectionPasses,serveConnection,idle,asked,answered] using head
      · rw [answered,ih (served + 1) next] at head
        simpa [connectionPasses,serveConnection,idle,asked,answered] using head

end

end SmlMcps.Http1
