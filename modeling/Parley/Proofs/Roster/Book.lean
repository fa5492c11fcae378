/-
A roster answers as a book does that has one list of sessions and one set of reserved names, with
no index and no order of its own: the book of a roster after a run is the book after the same run,
and whoever asks for a name, an id or a number cannot tell the two apart (`run_represents`).
-/
import Mathlib.Data.Finset.Basic
import Mathlib.Data.Finset.Dedup
import Parley.Proofs.Roster.Run

namespace Parley

/-! ## Books -/

/-- A session as it stands in a book. -/
structure Entry where
  id : SessionId
  name : Text
  link : ConnId
  mark : Nat
  deriving DecidableEq, Repr

/-- One list of sessions and one set of reserved names. -/
structure Book where
  sessions : List Entry := []
  reserved : Finset Text := ∅

namespace Book

/-- The id under which a name is registered. -/
def holder? (b : Book) (name : Text) : Option SessionId :=
  (b.sessions.find? (·.name = name)).map (·.id)

/-- The name of a session. -/
def nameOf? (b : Book) (id : SessionId) : Option Text :=
  (b.sessions.find? (·.id = id)).map (·.name)

/-- Whether a session has an id. -/
def contains (b : Book) (id : SessionId) : Bool := b.sessions.any (·.id = id)

/-- The names that are registered or reserved. -/
def activeNames (b : Book) : Finset Text := (b.sessions.map (·.name)).toFinset ∪ b.reserved

/-- Whether an operation is not refused. -/
def allows (b : Book) : Roster.Op → Bool
  | .register id name _ _ => name ∉ b.activeNames && !b.contains id
  | .remove id => b.contains id
  | .reserve name => name ∉ b.activeNames
  | .release name => name ∈ b.reserved
  | .touch id _ => b.contains id
  | .clear => true

/-- What an operation that is not refused makes of a book. -/
def change (b : Book) : Roster.Op → Book
  | .register id name link mark => { b with sessions := b.sessions ++ [⟨id, name, link, mark⟩] }
  | .remove id => { b with sessions := b.sessions.filter (·.id ≠ id) }
  | .reserve name => { b with reserved := insert name b.reserved }
  | .release name => { b with reserved := b.reserved.erase name }
  | .touch id mark =>
    { b with sessions := b.sessions.map fun e =>
        if e.id = id then { e with mark := max e.mark mark } else e }
  | .clear => {}

/-- The book after an operation. -/
def perform (b : Book) (op : Roster.Op) : Book := if b.allows op then b.change op else b

/-- The book after several operations, one after the other. -/
def run (b : Book) (ops : List Roster.Op) : Book := ops.foldl perform b

end Book

namespace Roster

/-! ## The book of a roster -/

/-- A session without its place in the order of registration. -/
def entry (s : Session) : Entry := ⟨s.id, s.name, s.link, s.mark⟩

/-- What a roster says, without its index. -/
def book (r : Roster) : Book := ⟨r.sessions.map entry, r.reserved.toFinset⟩

/-- A roster gives the answers of a book; its names are in order, each of them once. -/
structure Answers (r : Roster) (b : Book) : Prop where
  holder : ∀ name, r.holder? name = b.holder? name
  nameOf : ∀ id, r.nameOf? id = b.nameOf? id
  isActive : ∀ name, r.isActive name = true ↔ name ∈ b.activeNames
  contains : ∀ id, r.contains id = b.contains id
  size : r.size = b.sessions.length
  inOrder : r.activeNames.Pairwise fun a b => Text.atMost a b = true
  once : r.activeNames.Nodup
  names : r.activeNames.toFinset = b.activeNames

section Book

variable {r : Roster}

theorem book_contains (r : Roster) (id : SessionId) : r.contains id = r.book.contains id := by
  rw [Bool.eq_iff_iff, contains_iff, Book.contains, List.any_eq_true]
  simp [book, entry]

theorem book_holder? (hw : r.WF) (name : Text) : r.holder? name = r.book.holder? name := by
  have hn : ((r.sessions.map entry).map (·.name)).Nodup := by
    rw [List.map_map]; exact hw.names
  ext id
  rw [holder?_eq_some hw, Book.holder?, Option.map_eq_some_iff]
  constructor
  · rintro ⟨s, hs, rfl, rfl⟩
    exact ⟨entry s, (find?_key_eq_some hn).2 ⟨List.mem_map_of_mem hs, rfl⟩, rfl⟩
  · rintro ⟨e, he, rfl⟩
    obtain ⟨hm, rfl⟩ := (find?_key_eq_some hn).1 he
    obtain ⟨s, hs, rfl⟩ := List.mem_map.1 hm
    exact ⟨s, hs, rfl, rfl⟩

theorem book_nameOf? (r : Roster) (id : SessionId) : r.nameOf? id = r.book.nameOf? id := by
  rw [nameOf?, lookup?, Book.nameOf?, book, List.find?_map, Option.map_map]
  rfl

theorem book_isActive (hw : r.WF) {name : Text} :
    r.isActive name = true ↔ name ∈ r.book.activeNames := by
  rw [active_iff hw, Book.activeNames, Finset.mem_union, List.mem_toFinset]
  simp [book, entry]

theorem mem_activeNames {name : Text} : name ∈ r.activeNames ↔ r.isActive name = true := by
  rw [activeNames, List.mem_mergeSort, List.mem_append, isActive_iff]

theorem activeNames_nodup (hw : r.WF) : r.activeNames.Nodup := by
  rw [activeNames, (List.mergeSort_perm _ _).nodup_iff, List.nodup_append]
  refine ⟨?_, hw.reservedOnce, ?_⟩
  · rw [(hw.index.map _).nodup_iff, List.map_map]
    exact hw.names
  · rintro n hn m hm rfl
    rw [(hw.index.map _).mem_iff, List.map_map] at hn
    obtain ⟨s, hs, rfl⟩ := List.mem_map.1 hn
    exact hw.apart _ hm s hs rfl

theorem activeNames_inOrder (r : Roster) :
    r.activeNames.Pairwise fun a b => Text.atMost a b = true := by
  apply List.pairwise_mergeSort
  · exact fun _ _ _ => Text.atMost_trans
  · intro a b
    rw [Bool.or_eq_true]; exact Text.atMost_total a b

theorem answers_book (hw : r.WF) : r.Answers r.book where
  holder := book_holder? hw
  nameOf := book_nameOf? r
  isActive _ := book_isActive hw
  contains := book_contains r
  size := by simp [size, book]
  inOrder := activeNames_inOrder r
  once := activeNames_nodup hw
  names := by ext name; rw [List.mem_toFinset, mem_activeNames, book_isActive hw]

/-! ## One operation and whole runs -/

theorem mem_reserved_book {name : Text} : name ∈ r.book.reserved ↔ name ∈ r.reserved :=
  List.mem_toFinset

/-- An operation is refused exactly when the book refuses it. -/
theorem isSome_perform? (hw : r.WF) (op : Op) : (r.perform? op).isSome = r.book.allows op := by
  cases op with
  | register id name link mark =>
    rw [Bool.eq_iff_iff, ← Option.ne_none_iff_isSome, ne_eq, perform?, register?_eq_none,
      book_isActive hw, book_contains]
    simp [Book.allows]
  | remove id => simp [perform?, remove?, Book.allows, ← book_contains, contains]
  | reserve name =>
    rw [perform?, reserve?, Book.allows]
    by_cases h : r.isActive name = true
    · simp [h, (book_isActive hw).1 h]
    · have h' : name ∉ r.book.activeNames := fun hm => h ((book_isActive hw).2 hm)
      simp [h, h']
  | release name =>
    rw [perform?, release?, Book.allows]
    by_cases h : name ∈ r.reserved <;> simp [h, mem_reserved_book]
  | touch id mark =>
    rw [perform?, touch?, Book.allows, ← book_contains]
    by_cases h : r.contains id = true <;> simp [h]
  | clear => rfl

/-- What an operation makes of a roster, it makes of its book. -/
theorem book_perform? {r' : Roster} {op : Op} (h : r.perform? op = some r') :
    r'.book = r.book.change op := by
  cases op with
  | register id name link mark =>
    obtain ⟨-, -, rfl⟩ := register?_some h
    simp [book, entry, Book.change]
  | remove id =>
    obtain ⟨⟨s, r1⟩, hr, rfl⟩ := Option.map_eq_some_iff.1 h
    obtain ⟨-, hsessions, hreserved, -⟩ := remove?_sessions hr
    rw [book, hsessions, hreserved, book, Book.change, List.filter_map]
    rfl
  | reserve name =>
    obtain ⟨-, rfl⟩ := reserve?_some h
    simp [book, Book.change]
  | release name =>
    obtain ⟨-, rfl⟩ := release?_some h
    simp only [book, Book.change, Book.mk.injEq, true_and]
    ext n
    simp [and_comm]
  | touch id mark =>
    obtain ⟨-, rfl⟩ := touch?_some h
    simp only [book, Book.change, Book.mk.injEq, and_true, List.map_map]
    refine List.map_congr_left fun s _ => ?_
    by_cases hs : s.id = id <;> simp [entry, hs]
  | clear => cases h; rfl

theorem book_perform (hw : r.WF) (op : Op) : (r.perform op).book = r.book.perform op := by
  rw [perform, Book.perform, ← isSome_perform? hw]
  cases h : r.perform? op with
  | none => rfl
  | some r' => exact book_perform? h

end Book

theorem book_run (ops : List Op) : ∀ {r : Roster}, r.WF → (r.run ops).book = r.book.run ops := by
  induction ops with
  | nil => exact fun _ => rfl
  | cons op ops ih =>
    intro r hw
    show ((r.perform op).run ops).book = (r.book.perform op).run ops
    rw [ih (perform_wf hw op), book_perform hw]

/-- After any operations in any order, the index of names lists exactly the sessions by name and
id, no reserved name is held, and the roster gives the answers of the book of the same run; an
operation is refused exactly when the book refuses it, and then nothing changes. -/
theorem run_represents (ops : List Op) :
    (∀ name id, (run {} ops).holder? name = some id ↔
      ∃ s ∈ (run {} ops).sessions, s.id = id ∧ s.name = name) ∧
    ((run {} ops).sessions.map (·.id)).Nodup ∧ ((run {} ops).sessions.map (·.name)).Nodup ∧
    (∀ name ∈ (run {} ops).reserved, (run {} ops).holder? name = none) ∧
    (run {} ops).Answers (Book.run {} ops) ∧
    ∀ op, ((run {} ops).perform? op).isSome = (Book.run {} ops).allows op ∧
      ((Book.run {} ops).allows op = false → (run {} ops).perform op = run {} ops) := by
  have hw : (run {} ops).WF := run_wf ops (empty_wf 0)
  have hbook : (run {} ops).book = Book.run {} ops := book_run ops (empty_wf 0)
  refine ⟨fun _ _ => holder?_eq_some hw, hw.ids, hw.names, fun name hn => ?_,
    hbook ▸ answers_book hw, fun op => ?_⟩
  · cases h : (run {} ops).holder? name with
    | none => rfl
    | some id =>
      obtain ⟨s, hs, -, hname⟩ := (holder?_eq_some hw).1 h
      exact absurd hname (hw.apart name hn s hs)
  · rw [← hbook, ← isSome_perform? hw]
    refine ⟨rfl, fun h => ?_⟩
    have hnone : (run {} ops).perform? op = none :=
      Option.not_isSome_iff_eq_none.1 (Bool.eq_false_iff.1 h)
    rw [perform, hnone]; rfl

end Roster
end Parley
