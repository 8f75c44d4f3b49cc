import SmlMcps.Library.Marks

/-! Event streams. A stream is read line by line; a line ends with a carriage return, a
line feed or both. Fields of an event are collected until an empty line, which dispatches
the event if it has data. -/
namespace EventStream

/-- A dispatched event. -/
structure Event where
  type : List Char
  data : List Char
  deriving DecidableEq

/-- The lines that are ended, `current` being what there is of the first one. A line feed
right behind a carriage return belongs to the same line end. -/
def linesFrom (afterReturn : Bool) (current : List Char) : List Char → List (List Char)
  | [] => []
  | c :: rest =>
    if c = '\r' then current :: linesFrom true [] rest
    else if c = '\n' then
      if afterReturn then linesFrom false [] rest else current :: linesFrom false [] rest
    else linesFrom false (current ++ [c]) rest

/-- What was collected of an event: its type and its lines of data. -/
structure Pending where
  type : List Char := []
  data : List (List Char) := []

/-- A field name and its value; one blank before the value is skipped. -/
def field (line : List Char) : List Char × List Char :=
  match Marks.splitOnce [':'] line with
  | some (name,value) => (name,if value.head? = some ' ' then value.tail else value)
  | none => (line,[])

def Pending.take (pending : Pending) (line : List Char) : Pending :=
  -- A comment is a field without a name.
  let (name,value) := field line
  if name = "data".toList then { pending with data := pending.data ++ [value] }
  else if name = "event".toList then { pending with type := value }
  else pending

/-- The event an empty line dispatches. -/
def Pending.event (pending : Pending) : List Event :=
  if pending.data = [] then []
  else [⟨if pending.type = [] then "message".toList else pending.type,
    ['\n'].intercalate pending.data⟩]

def events (pending : Pending) : List (List Char) → List Event
  | [] => []
  | line :: rest =>
    if line = [] then pending.event ++ events {} rest else events (pending.take line) rest

/-- The events of a stream; a byte order mark before it is skipped. -/
def decode (text : List Char) : List Event :=
  events {} (linesFrom false []
    (if text.head? = some (Char.ofNat 0xfeff) then text.tail else text))

/-- An event with this data and nothing else, as it is written. -/
def encode (data : List Char) : List Char := "data: ".toList ++ data ++ ['\n','\n']

variable {line current rest data : List Char}

/-- A line without a line end in it. -/
structure Unbroken (line : List Char) : Prop where
  feed : '\n' ∉ line
  carriage : '\r' ∉ line

theorem linesFrom_line (unbroken : Unbroken line) (current rest : List Char) :
    linesFrom false current (line ++ '\n' :: rest) = (current ++ line) :: linesFrom false [] rest := by
  induction line generalizing current with
  | nil => simp [linesFrom]
  | cons c more ih =>
    have feed : c ≠ '\n' := fun same => unbroken.feed (by simp [same])
    have ret : c ≠ '\r' := fun same => unbroken.carriage (by simp [same])
    have inside : Unbroken more := ⟨fun member => unbroken.feed (by simp [member]),
      fun member => unbroken.carriage (by simp [member])⟩
    rw [List.cons_append,linesFrom,if_neg ret,if_neg feed,ih inside,List.append_assoc]
    rfl

theorem Unbroken.nil : Unbroken [] := ⟨List.not_mem_nil,List.not_mem_nil⟩

theorem Unbroken.field (unbroken : Unbroken data) : Unbroken ("data: ".toList ++ data) := by
  constructor
  · intro member
    obtain front | back := List.mem_append.mp member
    · exact absurd front (by decide)
    · exact unbroken.feed back
  · intro member
    obtain front | back := List.mem_append.mp member
    · exact absurd front (by decide)
    · exact unbroken.carriage back

/-- An event is its line of data and the empty line that dispatches it. -/
theorem linesFrom_encode (unbroken : Unbroken data) (rest : List Char) :
    linesFrom false [] (encode data ++ rest) =
      ("data: ".toList ++ data) :: [] :: linesFrom false [] rest := by
  have whole : encode data ++ rest =
      ("data: ".toList ++ data) ++ '\n' :: ([] ++ '\n' :: rest) := by
    delta encode
    rw [List.append_assoc]
    rfl
  rw [whole,linesFrom_line unbroken.field,linesFrom_line Unbroken.nil]
  rfl

theorem take_data (data : List Char) :
    Pending.take {} ("data: ".toList ++ data) = { data := [data] } := by
  have cut : Marks.splitOnce [':'] ("data".toList ++ ':' :: (' ' :: data)) =
      some ("data".toList,' ' :: data) := Marks.splitOnce_mark (by decide)
  have read : field ("data: ".toList ++ data) = ("data".toList,data) := by
    change field ("data".toList ++ ':' :: (' ' :: data)) = _
    rw [field,cut]
    rfl
  rw [Pending.take,read]
  rfl

theorem events_encode (items : List (List Char)) :
    events {} (items.flatMap fun data => [("data: ".toList ++ data),[]]) =
      items.map fun data => ⟨"message".toList,data⟩ := by
  induction items with
  | nil => rfl
  | cons data more ih =>
    have opened : "data: ".toList ++ data ≠ [] := fun none => by cases none
    have whole : (⟨[],[data]⟩ : Pending).event = [⟨"message".toList,data⟩] := by
      rw [Pending.event,if_neg (List.cons_ne_nil _ _),if_pos rfl,List.intercalate_singleton]
    rw [List.flatMap_cons,List.map_cons,List.cons_append,List.cons_append,List.nil_append,
      events,if_neg opened,take_data,events,if_pos rfl,whole,ih]
    rfl

theorem linesFrom_flatMap {items : List (List Char)} (unbroken : ∀ data ∈ items, Unbroken data) :
    linesFrom false [] (items.flatMap encode) =
      items.flatMap fun data => [("data: ".toList ++ data),[]] := by
  induction items with
  | nil => rfl
  | cons data more ih =>
    rw [List.flatMap_cons,linesFrom_encode (unbroken data (by simp)),
      ih fun later member => unbroken later (by simp [member])]
    rfl

/-- Events of unbroken data are read back one by one. -/
theorem decode_encode {items : List (List Char)} (unbroken : ∀ data ∈ items, Unbroken data) :
    decode (items.flatMap encode) = items.map fun data => ⟨"message".toList,data⟩ := by
  have unmarked : (items.flatMap encode).head? ≠ some (Char.ofNat 0xfeff) := by
    cases items with
    | nil => exact fun marked => by cases marked
    | cons data more =>
      have first : (encode data ++ more.flatMap encode).head? = some 'd' := rfl
      rw [List.flatMap_cons,first]
      decide
  rw [decode,if_neg unmarked,linesFrom_flatMap unbroken,events_encode]

end EventStream
