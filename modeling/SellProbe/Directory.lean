/-!
# Directories

A finite map from names to values, kept in increasing order of the names. Names are ordered by their
code points, which is also the byte order of their UTF-8 form. Two directories with the same entries
are equal.
-/

namespace SellProbe

/-- Entries with strictly increasing names. -/
structure Directory (α : Type) where
  entries : List (String × α)
  increasing : entries.Pairwise fun a b => a.1 < b.1

namespace Directory

variable {α β : Type}

@[ext] theorem ext {d e : Directory α} (h : d.entries = e.entries) : d = e := by
  cases d; cases e; cases h; rfl

def empty : Directory α := ⟨[], List.Pairwise.nil⟩

def insertEntry (name : String) (v : α) : List (String × α) → List (String × α)
  | [] => [(name, v)]
  | (n, w) :: rest =>
    if name < n then (name, v) :: (n, w) :: rest
    else if name = n then (name, v) :: rest
    else (n, w) :: insertEntry name v rest

theorem mem_insertEntry {name : String} {v : α} {es : List (String × α)} {e : String × α}
    (h : e ∈ insertEntry name v es) : e = (name, v) ∨ e ∈ es := by
  induction es with
  | nil => simpa [insertEntry] using h
  | cons x es ih =>
    rw [insertEntry] at h
    split at h
    · simpa using h
    · split at h <;> rcases List.mem_cons.1 h with h | h
      · exact Or.inl h
      · exact Or.inr (List.mem_cons_of_mem _ h)
      · exact Or.inr (h ▸ List.mem_cons_self)
      · exact (ih h).imp id (List.mem_cons_of_mem _)

theorem lt_of_not_lt_of_ne {a b : String} (h : ¬a < b) (hne : a ≠ b) : b < a :=
  Decidable.byContradiction fun h' => hne (String.le_antisymm (String.not_lt.1 h')
    (String.not_lt.1 h))

theorem pairwise_insertEntry (name : String) (v : α) {es : List (String × α)}
    (h : es.Pairwise fun a b => a.1 < b.1) :
    (insertEntry name v es).Pairwise fun a b => a.1 < b.1 := by
  induction es with
  | nil => simp [insertEntry]
  | cons x es ih =>
    obtain ⟨hx, hes⟩ := List.pairwise_cons.1 h
    rw [insertEntry]
    split
    · rename_i hlt
      refine List.pairwise_cons.2 ⟨fun e he => ?_, h⟩
      rcases List.mem_cons.1 he with rfl | he
      · exact hlt
      · exact String.lt_trans hlt (hx e he)
    · rename_i hlt
      split
      · rename_i heq
        exact List.pairwise_cons.2 ⟨fun e he => heq ▸ hx e he, hes⟩
      · rename_i hne
        refine List.pairwise_cons.2 ⟨fun e he => ?_, ih hes⟩
        rcases mem_insertEntry he with rfl | he
        · exact lt_of_not_lt_of_ne hlt hne
        · exact hx e he

/-- The directory with one more entry, which replaces an entry of the same name. -/
def insert (d : Directory α) (name : String) (v : α) : Directory α :=
  ⟨insertEntry name v d.entries, pairwise_insertEntry name v d.increasing⟩

/-- The directory of a list of entries, of which the last with a name wins. -/
def ofList (es : List (String × α)) : Directory α :=
  es.foldl (fun d e => d.insert e.1 e.2) empty

def get? (d : Directory α) (name : String) : Option α :=
  (d.entries.find? fun e => e.1 == name).map (·.2)

def names (d : Directory α) : List String := d.entries.map (·.1)

def mapWithName (f : String → α → β) (d : Directory α) : Directory β :=
  ⟨d.entries.map fun (n, v) => (n, f n v), List.pairwise_map.2 d.increasing⟩

end Directory

end SellProbe
