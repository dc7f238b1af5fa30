import Fortune.Outcome.Resolve
import Fortune.Proofs.Document.Literal
import Fortune.Proofs.Document.Path
import Fortune.Proofs.Template.Resolver

/-!
Resolution. The strings of a document resolve one after another, in the order of their paths, each
in the context that the one before leaves. A document that resolves keeps its shape, whatever the
texts are that come of its strings.
-/
namespace Fortune.Document

/-- A string, where it stands, and the text that comes of it. -/
structure Turn where
  path : Path
  template : String
  text : String

namespace Turn

def place (t : Turn) : Path × String := (t.path, t.template)

/-- The same turn, seen from one step above. -/
def above (step : Step) (t : Turn) : Turn := { t with path := step :: t.path }

theorem places_above (step : Step) (turns : List Turn) :
    (turns.map (above step)).map place = (turns.map place).map step.above := by
  rw [List.map_map, List.map_map]
  rfl

end Turn

/-- Strings that resolve one after another, each in the context that the one before leaves. -/
inductive InTurn : List Turn → Context → Context → Prop
  | done (c : Context) : InTurn [] c c
  | next {t : Turn} {ts : List Turn} {c mid last : Context}
      (first : Template.resolve t.template c = (.ok t.text, mid)) (rest : InTurn ts mid last) :
      InTurn (t :: ts) c last

theorem InTurn.append {ts us : List Turn} {c mid last : Context} (ht : InTurn ts c mid)
    (hu : InTurn us mid last) : InTurn (ts ++ us) c last := by
  induction ht with
  | done c => exact hu
  | next first rest ih => exact .next first (ih hu)

theorem InTurn.above {ts : List Turn} {c last : Context} (h : InTurn ts c last) (step : Step) :
    InTurn (ts.map (Turn.above step)) c last := by
  induction h with
  | done c => exact .done c
  | next first rest ih => exact .next first ih

/-- The strings alone say what comes of them. -/
theorem InTurn.unique {ts us : List Turn} {c last last' : Context} (ht : InTurn ts c last)
    (hu : InTurn us c last') (places : ts.map Turn.place = us.map Turn.place) : ts = us := by
  induction ht generalizing us with
  | done c =>
      have none : us = [] := List.map_eq_nil_iff.mp places.symm
      exact none.symm
  | @next t ts c mid last first rest ih =>
      cases hu with
      | done => cases places
      | @next u us _ mid' _ first' rest' =>
          obtain ⟨path, template, text⟩ := t
          obtain ⟨path', template', text'⟩ := u
          obtain ⟨own, others⟩ := List.cons.inj places
          obtain ⟨rfl, rfl⟩ := Prod.mk.inj own
          cases first.symm.trans first'
          rw [ih rest' others]

/-- A turn of the list is taken in some context on the way. -/
theorem InTurn.turn {ts us : List Turn} {t : Turn} {c last : Context}
    (h : InTurn (ts ++ t :: us) c last) :
    ∃ mid after, InTurn ts c mid ∧ Template.resolve t.template mid = (.ok t.text, after) := by
  induction ts generalizing c with
  | nil =>
      cases h with
      | next first rest => exact ⟨c, _, .done c, first⟩
  | cons t' ts ih =>
      cases h with
      | next first rest =>
          obtain ⟨mid, after, before, taken⟩ := ih rest
          exact ⟨mid, after, .next first before, taken⟩

/-- One of some strings does not resolve, and the ones before it do. -/
def FirstFailure (found : List (Path × String)) (c : Context) (e : Template.Error)
    (last : Context) : Prop :=
  ∃ turns path s later mid, found = turns.map Turn.place ++ (path, s) :: later ∧
    InTurn turns c mid ∧ Template.resolve s mid = (.error e, last)

namespace FirstFailure

variable {found : List (Path × String)} {c mid last : Context} {e : Template.Error}

theorem above (h : FirstFailure found c e last) (step : Step) :
    FirstFailure (found.map step.above) c e last := by
  obtain ⟨turns, path, s, later, mid, rfl, before, failed⟩ := h
  refine ⟨turns.map (Turn.above step), step :: path, s, later.map step.above, mid, ?_,
    before.above step, failed⟩
  rw [Turn.places_above, List.map_append]
  rfl

theorem append (h : FirstFailure found c e last) (more : List (Path × String)) :
    FirstFailure (found ++ more) c e last := by
  obtain ⟨turns, path, s, later, mid, rfl, before, failed⟩ := h
  exact ⟨turns, path, s, later ++ more, mid, by simp, before, failed⟩

theorem behind (h : FirstFailure found mid e last) {turns : List Turn}
    (before : InTurn turns c mid) : FirstFailure (turns.map Turn.place ++ found) c e last := by
  obtain ⟨turns', path, s, later, mid', rfl, before', failed⟩ := h
  exact ⟨turns ++ turns', path, s, later, mid', by simp, before.append before', failed⟩

end FirstFailure

/-- What stands at a path, before and after some turns. A string has had its turn, and is a number
if its text is a literal, else its text; an array is as long as before, an object has the same keys,
and everything else is as it was. -/
def Becomes (turns : List Turn) (path : Path) : Option Document → Option Document → Prop
  | some (.string s), after =>
    ∃ t ∈ turns, t.path = path ∧ t.template = s ∧
      (∀ n, literal? t.text.toList = some n → after = some (.number n)) ∧
      (literal? t.text.toList = none → after = some (.string t.text))
  | some (.array items), after =>
    ∃ items', after = some (.array items') ∧ items'.length = items.length
  | some (.object members), after =>
    ∃ members', after = some (.object members') ∧
      members'.map Prod.fst = members.map Prod.fst
  | before, after => after = before

theorem Becomes.imp {turns turns' : List Turn} {path path' : Path} {before after : Option Document}
    (h : Becomes turns path before after)
    (turn : ∀ t ∈ turns, t.path = path → { t with path := path' } ∈ turns') :
    Becomes turns' path' before after := by
  rcases before with _ | d
  · exact h
  · cases d with
    | string s =>
        obtain ⟨t, inside, same, template, becomes⟩ := h
        exact ⟨_, turn t inside same, rfl, template, becomes⟩
    | null => exact h
    | bool b => exact h
    | number n => exact h
    | array items => exact h
    | object members => exact h

/-- What becomes of a part becomes of it in the whole, one step further down. -/
theorem Becomes.above {turns turns' : List Turn} {path : Path} {before after : Option Document}
    (h : Becomes turns path before after) {step : Step}
    (turn : ∀ t ∈ turns, t.above step ∈ turns') : Becomes turns' (step :: path) before after := by
  refine h.imp fun t inside same => ?_
  rw [← same]
  exact turn t inside

theorem Becomes.mono {turns turns' : List Turn} {path : Path} {before after : Option Document}
    (h : Becomes turns path before after) (more : ∀ t ∈ turns, t ∈ turns') :
    Becomes turns' path before after := by
  refine h.imp fun t inside same => ?_
  rw [← same]
  exact more t inside

/-! One string. -/

theorem draw_string_ok {s : String} {c last : Context} {after : Document}
    (h : c.draw ((string s).resolve c.toScene) = (.ok after, last)) :
    ∃ text, Template.resolve s c = (.ok text, last) ∧ after = leaf text.toList := by
  rw [resolve, Context.draw_map_ok] at h
  obtain ⟨text, resolved, rfl⟩ := h
  refine ⟨String.ofList text, ?_, by rw [String.toList_ofList]⟩
  rw [Template.resolve, Context.draw_map_ok]
  exact ⟨text, resolved, rfl⟩

theorem draw_string_error {s : String} {c last : Context} {e : Template.Error}
    (h : c.draw ((string s).resolve c.toScene) = (.error e, last)) :
    Template.resolve s c = (.error e, last) := by
  rw [resolve, Context.draw_map_error] at h
  rw [Template.resolve, Context.draw_map_error]
  exact h

theorem becomes_leaf {t : Turn} {turns : List Turn} (inside : t ∈ turns) :
    Becomes turns t.path (some (.string t.template)) (some (leaf t.text.toList)) := by
  refine ⟨t, inside, rfl, rfl, ?_, ?_⟩
  · intro n accepted
    rw [leaf, accepted]
  · intro refused
    rw [leaf, refused, String.ofList_toList]

theorem at?_leaf_cons (text : List Char) (step : Step) (path : Path) :
    (leaf text).at? (step :: path) = none := by
  unfold leaf
  split <;> cases step <;> rfl

/-! Success: a turn for each string, and the same shape. -/

/-- The document resolves with a turn for each of its strings, and each part becomes what it may. -/
def Resolves (d : Document) : Prop :=
  ∀ c after last, c.draw (d.resolve c.toScene) = (.ok after, last) →
    ∃ turns, turns.map Turn.place = d.leaves ∧ InTurn turns c last ∧
      ∀ path, Becomes turns path (d.at? path) (after.at? path)

/-- Where no string stands, nothing is drawn and nothing changes. -/
theorem resolves_still {d : Document} (still : ∀ scene, d.resolve scene = pure d)
    (bare : d.leaves = []) (whole : Becomes [] [] (some d) (some d))
    (atom : ∀ step path, d.at? (step :: path) = none) : d.Resolves := by
  intro c after last h
  rw [still, Context.draw_pure] at h
  cases h
  refine ⟨[], bare.symm, .done _, ?_⟩
  intro path
  cases path with
  | nil => exact whole
  | cons step path =>
      rw [atom]
      exact rfl

theorem resolveItems_ok {items : List Document} (parts : ∀ item ∈ items, item.Resolves)
    (start : Nat) {c last : Context} {after : List Document}
    (h : c.draw (resolveItems c.toScene items) = (.ok after, last)) :
    ∃ turns, turns.map Turn.place = leavesOfItems start items ∧ InTurn turns c last ∧
      after.length = items.length ∧
      ∀ i path, Becomes turns (.item (start + i) :: path)
        (items[i]?.bind fun d => d.at? path) (after[i]?.bind fun d => d.at? path) := by
  induction items generalizing start c after with
  | nil =>
      rw [resolveItems, Context.draw_pure] at h
      cases h
      exact ⟨[], rfl, .done _, rfl, fun _ _ => rfl⟩
  | cons item items ih =>
      obtain ⟨own, others⟩ := List.forall_mem_cons.mp parts
      rw [resolveItems, Context.draw_bind_ok] at h
      obtain ⟨item', mid, first, h⟩ := h
      rw [Context.draw_map_ok, ← Context.draw_toScene first] at h
      obtain ⟨after', rest, rfl⟩ := h
      obtain ⟨turns, places, inTurn, becomes⟩ := own c item' mid first
      obtain ⟨turns', places', inTurn', length, becomes'⟩ := ih others (start + 1) rest
      refine ⟨turns.map (Turn.above (.item start)) ++ turns', ?_,
        (inTurn.above _).append inTurn', congrArg (· + 1) length, ?_⟩
      · rw [List.map_append, Turn.places_above, places, places', leavesOfItems]
      · intro i path
        cases i with
        | zero =>
            refine (becomes path).above fun t inside => ?_
            exact List.mem_append_left _ (List.mem_map_of_mem inside)
        | succ i =>
            have place : start + (i + 1) = start + 1 + i := by omega
            rw [place]
            exact (becomes' i path).mono fun t => List.mem_append_right _

theorem resolveMembers_ok {members : List (String × Document)}
    (parts : ∀ member ∈ members, member.2.Resolves) {c last : Context}
    {after : List (String × Document)}
    (h : c.draw (resolveMembers c.toScene members) = (.ok after, last)) :
    ∃ turns, turns.map Turn.place = leavesOfMembers members ∧ InTurn turns c last ∧
      after.map Prod.fst = members.map Prod.fst ∧
      ∀ key path, Becomes turns (.member key :: path)
        ((member? key members).bind fun d => d.at? path)
        ((member? key after).bind fun d => d.at? path) := by
  induction members generalizing c after with
  | nil =>
      rw [resolveMembers, Context.draw_pure] at h
      cases h
      exact ⟨[], rfl, .done _, rfl, fun _ _ => rfl⟩
  | cons member members ih =>
      obtain ⟨first, item⟩ := member
      obtain ⟨own, others⟩ := List.forall_mem_cons.mp parts
      rw [resolveMembers, Context.draw_bind_ok] at h
      obtain ⟨item', mid, resolved, h⟩ := h
      rw [Context.draw_map_ok, ← Context.draw_toScene resolved] at h
      obtain ⟨after', rest, rfl⟩ := h
      obtain ⟨turns, places, inTurn, becomes⟩ := own c item' mid resolved
      obtain ⟨turns', places', inTurn', keys, becomes'⟩ := ih others rest
      refine ⟨turns.map (Turn.above (.member first)) ++ turns', ?_,
        (inTurn.above _).append inTurn', congrArg (first :: ·) keys, ?_⟩
      · rw [List.map_append, Turn.places_above, places, places', leavesOfMembers]
      · intro key path
        rw [member?, member?, Keyed.find?, Keyed.find?]
        by_cases same : key = first
        · rw [if_pos same, if_pos same, same]
          refine (becomes path).above fun t inside => ?_
          exact List.mem_append_left _ (List.mem_map_of_mem inside)
        · rw [if_neg same, if_neg same]
          exact (becomes' key path).mono fun t => List.mem_append_right _

/-- A document that resolves keeps its shape; each of its strings has its turn. -/
theorem resolve_ok : ∀ d : Document, d.Resolves := by
  refine byParts ?null ?bool ?number ?string ?array ?object
  case null => exact resolves_still (fun _ => rfl) rfl rfl fun step _ => by cases step <;> rfl
  case bool =>
    exact fun b => resolves_still (fun _ => rfl) rfl rfl fun step _ => by cases step <;> rfl
  case number =>
    exact fun n => resolves_still (fun _ => rfl) rfl rfl fun step _ => by cases step <;> rfl
  case string =>
    intro s c after last h
    obtain ⟨text, resolved, rfl⟩ := draw_string_ok h
    refine ⟨[⟨[], s, text⟩], rfl, .next resolved (.done last), ?_⟩
    intro path
    cases path with
    | nil => exact becomes_leaf (t := ⟨[], s, text⟩) List.mem_cons_self
    | cons step path =>
        have atom : (string s).at? (step :: path) = none := by cases step <;> rfl
        rw [atom]
        exact at?_leaf_cons _ step path
  case array =>
    intro items parts c after last h
    rw [resolve, Context.draw_map_ok] at h
    obtain ⟨items', resolved, rfl⟩ := h
    obtain ⟨turns, places, inTurn, length, becomes⟩ := resolveItems_ok parts 0 resolved
    refine ⟨turns, places, inTurn, ?_⟩
    intro path
    rcases path with _ | ⟨i | key, path⟩
    · exact ⟨items', rfl, length⟩
    · have part := becomes i path
      rw [Nat.zero_add] at part
      exact part
    · exact rfl
  case object =>
    intro members parts c after last h
    rw [resolve, Context.draw_map_ok] at h
    obtain ⟨members', resolved, rfl⟩ := h
    obtain ⟨turns, places, inTurn, keys, becomes⟩ := resolveMembers_ok parts resolved
    refine ⟨turns, places, inTurn, ?_⟩
    intro path
    rcases path with _ | ⟨i | key, path⟩
    · exact ⟨members', rfl, keys⟩
    · exact rfl
    · exact becomes key path

/-! Failure: the first string that does not resolve. -/

def Fails (d : Document) : Prop :=
  ∀ c e last, c.draw (d.resolve c.toScene) = (.error e, last) → FirstFailure d.leaves c e last

/-- Either the part fails, or what follows it does in the context that the part leaves. -/
theorem Fails.then {item : Document} (own : item.Fails) {β : Type}
    {f : Document → Template.Resolver β} {c last : Context} {e : Template.Error}
    (h : c.draw (item.resolve c.toScene >>= f : Template.Resolver β) = (.error e, last))
    {later : List (Path × String)}
    (next : ∀ item' mid, mid.toScene = c.toScene → mid.draw (f item') = (.error e, last) →
      FirstFailure later mid e last) (step : Step) :
    FirstFailure (item.leaves.map step.above ++ later) c e last := by
  rcases Context.draw_bind_error.mp h with failed | ⟨item', mid, resolved, failed⟩
  · exact ((own c e last failed).above step).append later
  · obtain ⟨turns, places, inTurn, _⟩ := resolve_ok item c item' mid resolved
    rw [← places, ← Turn.places_above]
    exact (next item' mid (Context.draw_toScene resolved) failed).behind (inTurn.above step)

theorem resolveItems_error {items : List Document} (parts : ∀ item ∈ items, item.Fails)
    (start : Nat) {c last : Context} {e : Template.Error}
    (h : c.draw (resolveItems c.toScene items) = (.error e, last)) :
    FirstFailure (leavesOfItems start items) c e last := by
  induction items generalizing start c with
  | nil => cases h
  | cons item items ih =>
      obtain ⟨own, others⟩ := List.forall_mem_cons.mp parts
      refine own.then h ?_ (.item start)
      intro item' mid scene failed
      rw [Context.draw_map_error, ← scene] at failed
      exact ih others (start + 1) failed

theorem resolveMembers_error {members : List (String × Document)}
    (parts : ∀ member ∈ members, member.2.Fails) {c last : Context} {e : Template.Error}
    (h : c.draw (resolveMembers c.toScene members) = (.error e, last)) :
    FirstFailure (leavesOfMembers members) c e last := by
  induction members generalizing c with
  | nil => cases h
  | cons member members ih =>
      obtain ⟨key, item⟩ := member
      obtain ⟨own, others⟩ := List.forall_mem_cons.mp parts
      refine own.then h ?_ (.member key)
      intro item' mid scene failed
      rw [Context.draw_map_error, ← scene] at failed
      exact ih others failed

theorem resolve_error : ∀ d : Document, d.Fails := by
  refine byParts ?null ?bool ?number ?string ?array ?object
  case null => exact fun c e last h => by cases h
  case bool => exact fun b c e last h => by cases h
  case number => exact fun n c e last h => by cases h
  case string =>
    intro s c e last h
    exact ⟨[], [], s, [], c, rfl, .done c, draw_string_error h⟩
  case array =>
    intro items parts c e last h
    rw [resolve, Context.draw_map_error] at h
    exact resolveItems_error parts 0 h
  case object =>
    intro members parts c e last h
    rw [resolve, Context.draw_map_error] at h
    exact resolveMembers_error parts h

end Fortune.Document
