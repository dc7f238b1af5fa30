import Fortune.Proofs.Outcome.Resolution

/-!
Documents with something else in one place. If neither the string that stood there nor what
replaces it draws anything, the two documents resolve alike except in that place.
-/
namespace Fortune.Keyed

variable {κ α : Type} [DecidableEq κ]

/-- Changes the value under a key. -/
def modify (key : κ) (f : α → α) : List (κ × α) → List (κ × α)
  | [] => []
  | (k, a) :: rest => if key = k then (k, f a) :: rest else (k, a) :: modify key f rest

theorem find?_modify (key other : κ) (f : α → α) (entries : List (κ × α)) :
    find? other (modify key f entries) =
      if other = key then (find? key entries).map f else find? other entries := by
  induction entries with
  | nil => simp [modify, find?]
  | cons entry rest ih =>
      obtain ⟨k, a⟩ := entry
      unfold modify
      split
      · rename_i same
        subst same
        by_cases h : other = key <;> simp [find?, h]
      · rename_i apart
        simp only [find?, ih]
        by_cases h : other = key
        · subst h
          simp [apart]
        · simp [h]

/-- What was changed under a key can be put back. -/
theorem modify_modify {key : κ} {a : α} (b : α) {entries : List (κ × α)}
    (there : find? key entries = some a) :
    modify key (fun _ => a) (modify key (fun _ => b) entries) = entries := by
  induction entries with
  | nil => rfl
  | cons entry rest ih =>
      obtain ⟨k, first⟩ := entry
      rw [find?] at there
      by_cases same : key = k
      · rw [if_pos same] at there
        cases there
        simp [modify, same]
      · rw [if_neg same] at there
        simp [modify, same, ih there]

end Fortune.Keyed

namespace Fortune.Document

/-- The members are the same except under one key. -/
def AlikeBut (key : String) (members members' : List (String × Document)) : Prop :=
  ∀ other, other ≠ key → member? other members' = member? other members

theorem AlikeBut.symm {key : String} {members members' : List (String × Document)}
    (h : AlikeBut key members members') : AlikeBut key members' members :=
  fun other apart => (h other apart).symm

theorem alikeBut_modify (key : String) (f : Document → Document)
    (members : List (String × Document)) : AlikeBut key members (Keyed.modify key f members) := by
  intro other apart
  rw [member?, Keyed.find?_modify, if_neg apart, member?]

theorem member?_modify {key : String} {f : Document → Document}
    {members : List (String × Document)} {d : Document} (there : member? key members = some d) :
    member? key (Keyed.modify key f members) = some (f d) := by
  rw [member?] at there
  rw [member?, Keyed.find?_modify, if_pos rfl, there, Option.map_some]

/-- The document with another one in the place under some keys, each inside the one before. -/
def put (new : Document) : List String → Document → Document
  | [], _ => new
  | key :: keys, .object members => .object (Keyed.modify key (put new keys) members)
  | _ :: _, d => d

def keyPath (keys : List String) : Path := keys.map .member

theorem at?_keyPath_cons {key : String} {keys : List String} {d found : Document}
    (h : d.at? (keyPath (key :: keys)) = some found) :
    ∃ members part, d = .object members ∧ member? key members = some part ∧
      part.at? (keyPath keys) = some found := by
  cases d with
  | object members =>
      obtain ⟨part, inside, there⟩ := Option.bind_eq_some_iff.mp h
      exact ⟨members, part, rfl, inside, there⟩
  | _ => cases h

theorem resolveMembers_modify {scene : Scene} {key : String} {d : Document}
    {f g : Document → Document} {members : List (String × Document)}
    (there : member? key members = some d) (own : (f d).resolve scene = g <$> d.resolve scene) :
    resolveMembers scene (Keyed.modify key f members) =
      Keyed.modify key g <$> resolveMembers scene members := by
  induction members with
  | nil => cases there
  | cons member members ih =>
      obtain ⟨k, item⟩ := member
      rw [member?, Keyed.find?] at there
      by_cases same : key = k
      · rw [if_pos same] at there
        cases there
        simp [Keyed.modify, same, resolveMembers, own]
      · rw [if_neg same] at there
        simp [Keyed.modify, same, resolveMembers, ih there]

theorem resolve_put {scene : Scene} {s : String} {new old after : Document}
    (before : (string s).resolve scene = pure old) (now : new.resolve scene = pure after)
    {keys : List String} {d : Document} (there : d.at? (keyPath keys) = some (.string s)) :
    (put new keys d).resolve scene = put after keys <$> d.resolve scene := by
  induction keys generalizing d with
  | nil =>
      cases there
      simp [put, before, now]
  | cons key keys ih =>
      obtain ⟨members, part, rfl, inside, deeper⟩ := at?_keyPath_cons there
      simp only [put, resolve, resolveMembers_modify inside (ih deeper)]
      simp [put]

end Fortune.Document
