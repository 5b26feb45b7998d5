/-!
# Messages

A message has a body and at most one value for each header name. Names are compared
as they stand. The headers are kept in the order of their names, so that messages with
the same headers are equal however they were put together.

Rules see no more of a message than its body and the values of the headers they ask for.
Whatever answers these questions, a message or not, is a provider.
-/

namespace MailRules

/-- What can be asked for its body and for the value of a header. -/
structure Provider where
  body : String
  header? : String → Option String

/-- Headers in increasing order of their names. -/
structure Headers where
  entries : List (String × String)
  sorted : entries.Pairwise (·.1 < ·.1)

namespace Headers

instance : EmptyCollection Headers := ⟨⟨[], .nil⟩⟩

instance : DecidableEq Headers := fun a b =>
  decidable_of_iff (a.entries = b.entries)
    ⟨fun h => by cases a; cases b; cases h; rfl, fun h => by rw [h]⟩

def get? (headers : Headers) (name : String) : Option String := headers.entries.lookup name

def size (headers : Headers) : Nat := headers.entries.length

/-- Puts a header among others, in place of one of the same name. -/
def insertEntry (name value : String) : List (String × String) → List (String × String)
  | [] => [(name, value)]
  | (other, old) :: rest =>
    if name < other then (name, value) :: (other, old) :: rest
    else if name = other then (name, value) :: rest
    else (other, old) :: insertEntry name value rest

theorem mem_insertEntry {name value : String} {entries : List (String × String)}
    {entry : String × String} (h : entry ∈ insertEntry name value entries) :
    entry = (name, value) ∨ entry ∈ entries := by
  induction entries with
  | nil => simpa [insertEntry] using h
  | cons head rest ih =>
    simp only [insertEntry] at h
    split at h
    · simpa using h
    · split at h
      · rcases List.mem_cons.mp h with h | h
        · exact .inl h
        · exact .inr (List.mem_cons_of_mem _ h)
      · rcases List.mem_cons.mp h with h | h
        · exact .inr (by simp [h])
        · exact (ih h).imp id (List.mem_cons_of_mem _)

theorem pairwise_insertEntry {name value : String} {entries : List (String × String)}
    (h : entries.Pairwise (·.1 < ·.1)) :
    (insertEntry name value entries).Pairwise (·.1 < ·.1) := by
  induction entries with
  | nil => simp [insertEntry]
  | cons head rest ih =>
    obtain ⟨other, old⟩ := head
    obtain ⟨below, tail⟩ := List.pairwise_cons.mp h
    simp only [insertEntry]
    split
    · next less =>
      refine List.pairwise_cons.mpr ⟨fun entry member => ?_, h⟩
      rcases List.mem_cons.mp member with rfl | member
      · exact less
      · exact String.lt_trans less (below entry member)
    · split
      · next same => subst same; exact List.pairwise_cons.mpr ⟨below, tail⟩
      · next notLess different =>
        refine List.pairwise_cons.mpr ⟨fun entry member => ?_, ih tail⟩
        rcases mem_insertEntry member with rfl | member
        · exact Std.lt_of_le_of_ne (Std.not_lt.mp notLess) (Ne.symm different)
        · exact below entry member

/-- Sets the value of a header. -/
def insert (headers : Headers) (name value : String) : Headers :=
  ⟨insertEntry name value headers.entries, pairwise_insertEntry headers.sorted⟩

private theorem lookup_cons (name value query : String) (entries : List (String × String)) :
    ((name, value) :: entries).lookup query =
      if query = name then some value else entries.lookup query := by
  rw [List.lookup_cons]
  by_cases h : query = name
  · simp [h]
  · simp [h, beq_eq_false_iff_ne.mpr h]

theorem lookup_insertEntry (name value query : String) (entries : List (String × String)) :
    (insertEntry name value entries).lookup query =
      if query = name then some value else entries.lookup query := by
  induction entries with
  | nil => simp only [insertEntry, lookup_cons]
  | cons head rest ih =>
    obtain ⟨other, old⟩ := head
    simp only [insertEntry]
    split
    · simp only [lookup_cons]
    · split
      · next same =>
        subst same
        simp only [lookup_cons]
        split <;> rfl
      · next different =>
        simp only [lookup_cons, ih]
        by_cases h : query = name
        · subst h; simp [different]
        · simp [h]

@[simp] theorem get?_insert (headers : Headers) (name value query : String) :
    (headers.insert name value).get? query =
      if query = name then some value else headers.get? query :=
  lookup_insertEntry ..

/-- The headers given by pairs, the last of a name counting. -/
def ofList (pairs : List (String × String)) : Headers :=
  pairs.foldl (fun headers (name, value) => headers.insert name value) ∅

end Headers

structure Message where
  body : String := ""
  headers : Headers := ∅
  deriving DecidableEq

namespace Message

def header? (message : Message) (name : String) : Option String := message.headers.get? name

def withHeader (message : Message) (name value : String) : Message :=
  { message with headers := message.headers.insert name value }

def provider (message : Message) : Provider := ⟨message.body, message.header?⟩

@[simp] theorem header?_withHeader (message : Message) (name value query : String) :
    (message.withHeader name value).header? query =
      if query = name then some value else message.header? query :=
  Headers.get?_insert ..

@[simp] theorem body_withHeader (message : Message) (name value : String) :
    (message.withHeader name value).body = message.body := rfl

end Message
end MailRules
