/-! Lists of entries under distinct keys, kept in increasing key order. -/
namespace Fortune.Keyed

variable {κ α : Type}

/-- The keys increase from entry to entry. -/
def Increasing [LT κ] (entries : List (κ × α)) : Prop :=
  (entries.map Prod.fst).Pairwise (· < ·)

def find? [DecidableEq κ] (key : κ) : List (κ × α) → Option α
  | [] => none
  | (k, a) :: rest => if key = k then some a else find? key rest

def insert [LT κ] [DecidableLT κ] [DecidableEq κ] (key : κ) (value : α) :
    List (κ × α) → List (κ × α)
  | [] => [(key, value)]
  | (k, a) :: rest =>
    if key < k then (key, value) :: (k, a) :: rest
    else if key = k then (key, value) :: rest
    else (k, a) :: insert key value rest

/-- Entries in any order, later ones replacing earlier ones of the same key. -/
def ofList [LT κ] [DecidableLT κ] [DecidableEq κ] (entries : List (κ × α)) : List (κ × α) :=
  entries.foldl (fun kept (key, value) => insert key value kept) []

theorem find?_insert [LT κ] [DecidableLT κ] [DecidableEq κ] (key other : κ) (value : α)
    (entries : List (κ × α)) :
    find? other (insert key value entries) =
      if other = key then some value else find? other entries := by
  induction entries with
  | nil => simp [insert, find?]
  | cons entry rest ih =>
    obtain ⟨k, a⟩ := entry
    unfold insert
    split
    · by_cases h : other = key <;> simp [find?, h]
    · split
      · rename_i same
        subst same
        by_cases h : other = key <;> simp [find?, h]
      · rename_i apart
        simp only [find?, ih]
        by_cases h : other = key
        · subst h
          simp [apart]
        · simp [h]

end Fortune.Keyed
