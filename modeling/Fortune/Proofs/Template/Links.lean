import Fortune.Proofs.Template.Chain
import Fortune.Proofs.Text.Reading

/-!
Chains as they are spelled: signed numerals, two or more, with one operator between each two. The
scan for chains takes the longest that a text begins with.
-/
namespace Fortune.Template
open Text

inductive Operator where
  | plus
  | minus
  | times
  | slash
deriving DecidableEq, Repr

def Operator.char : Operator → Char
  | .plus => '+'
  | .minus => '-'
  | .times => '*'
  | .slash => '/'

structure Link where
  operator : Operator
  operand : SignedNumeral
deriving DecidableEq, Repr

def Link.text (l : Link) : List Char := l.operator.char :: l.operand.text

/-- A numeral, and a link for each further one. -/
structure Chain where
  first : SignedNumeral
  links : List Link
deriving DecidableEq, Repr

namespace Chain

def text (chain : Chain) : List Char := chain.first.text ++ chain.links.flatMap Link.text

/-- There are at least two numerals, each of digits with a point at most between them. -/
structure WellFormed (chain : Chain) : Prop where
  linked : chain.links ≠ []
  first : chain.first.magnitude.WellFormed
  operands : ∀ l ∈ chain.links, l.operand.magnitude.WellFormed

end Chain

/-- The text is a chain from its beginning to its end. -/
def IsChain (text : List Char) : Prop := ∃ chain : Chain, chain.WellFormed ∧ text = chain.text

theorem isOperator_iff {c : Char} : isOperator c = true ↔ ∃ o : Operator, c = o.char := by
  constructor
  · intro h
    simp only [isOperator, Bool.or_eq_true, beq_iff_eq] at h
    rcases h with ((rfl | rfl) | rfl) | rfl
    · exact ⟨.times, rfl⟩
    · exact ⟨.slash, rfl⟩
    · exact ⟨.plus, rfl⟩
    · exact ⟨.minus, rfl⟩
  · rintro ⟨o, rfl⟩
    cases o <;> rfl

theorem ends_links (n : Numeral) {links : List Link} (some : links ≠ []) (rest : List Char) :
    n.Ends (links.flatMap Link.text ++ rest) := by
  apply Numeral.Ends.of_head
  intro c more same
  cases links with
  | nil => exact absurd rfl some
  | cons l links =>
      obtain rfl : l.operator.char = c := (List.cons.inj same).1
      cases l.operator <;> decide

theorem exists_links (fuel : Nat) (text : List Char) :
    ∃ links : List Link, (∀ l ∈ links, l.operand.magnitude.WellFormed) ∧
      chainTail fuel text = links.flatMap Link.text := by
  have none : ∃ links : List Link, (∀ l ∈ links, l.operand.magnitude.WellFormed) ∧
      [] = links.flatMap Link.text := ⟨[], List.forall_mem_nil _, rfl⟩
  induction fuel generalizing text with
  | zero => exact none
  | succ fuel ih =>
      cases text with
      | nil => exact none
      | cons c rest =>
          unfold chainTail
          split
          · rename_i sign
            split
            · rename_i n more seen
              obtain ⟨o, rfl⟩ := isOperator_iff.mp sign
              obtain ⟨formed, _⟩ := SignedNumeral.scan_eq_some_iff.mp seen
              obtain ⟨links, fit, spelled⟩ := ih more
              refine ⟨⟨o, n⟩ :: links, List.forall_mem_cons.mpr ⟨formed, fit⟩, ?_⟩
              rw [spelled, List.flatMap_cons]
              rfl
            · exact none
          · exact none

/-- Rounds enough take all links that are there. -/
theorem chainTail_covers {links : List Link} (fit : ∀ l ∈ links, l.operand.magnitude.WellFormed)
    {fuel : Nat} (enough : links.length ≤ fuel) (rest : List Char) :
    (links.flatMap Link.text).length ≤
      (chainTail fuel (links.flatMap Link.text ++ rest)).length := by
  induction links generalizing fuel with
  | nil => exact Nat.zero_le _
  | cons l links ih =>
      obtain ⟨fuel, rfl⟩ := Nat.exists_eq_succ_of_ne_zero (Nat.ne_zero_of_lt enough)
      obtain ⟨formed, others⟩ := List.forall_mem_cons.mp fit
      have sign : isOperator l.operator.char = true := isOperator_iff.mpr ⟨_, rfl⟩
      have round (n : SignedNumeral) (more : List Char)
          (seen : SignedNumeral.scan (l.operand.text ++ (links.flatMap Link.text ++ rest)) =
            some (n, more)) :
          chainTail (fuel + 1) ((l :: links).flatMap Link.text ++ rest) =
            l.operator.char :: n.text ++ chainTail fuel more := by
        rw [List.flatMap_cons, List.append_assoc, Link.text, List.cons_append, chainTail,
          if_pos sign, seen]
      -- The last numeral may go on into the rest, any other ends at the operator behind it.
      by_cases last : links = []
      · subst last
        obtain ⟨n, more, seen, longer⟩ := SignedNumeral.scan_covers formed rest
        rw [round n more seen]
        simp only [List.flatMap_singleton, Link.text, List.length_cons, List.length_append,
          List.cons_append]
        omega
      · have ends := ends_links l.operand.magnitude last rest
        have later := ih others (Nat.le_of_succ_le_succ enough)
        rw [round _ _ (SignedNumeral.scan_eq_some_iff.mpr ⟨formed, rfl, ends⟩)]
        simp only [List.flatMap_cons, Link.text, List.length_cons, List.length_append,
          List.cons_append]
        omega

theorem length_links_le (links : List Link) : links.length ≤ (links.flatMap Link.text).length := by
  induction links with
  | nil => exact Nat.le_refl _
  | cons l links ih =>
      rw [List.flatMap_cons, List.length_append, List.length_cons, Link.text, List.length_cons]
      omega

theorem isChain_of_chainText? {text lexeme : List Char} (h : chainText? text = some lexeme) :
    IsChain lexeme := by
  unfold chainText? at h
  split at h
  · cases h
  · rename_i n rest seen
    obtain ⟨formed, _⟩ := SignedNumeral.scan_eq_some_iff.mp seen
    obtain ⟨links, fit, spelled⟩ := exists_links rest.length rest
    dsimp only at h
    split at h
    · cases h
    · rename_i some
      cases h
      refine ⟨⟨n, links⟩, ⟨?_, formed, fit⟩, by rw [spelled, Chain.text]⟩
      rintro rfl
      exact some (by simp [spelled])

/-- Where a chain begins, one is taken that is at least as long. -/
theorem IsChain.exists_chainText? {word text : List Char} (chain : IsChain word)
    (front : word <+: text) :
    ∃ lexeme, chainText? text = some lexeme ∧ word.length ≤ lexeme.length := by
  obtain ⟨⟨first, links⟩, ⟨linked, formed, fit⟩, rfl⟩ := chain
  obtain ⟨rest, rfl⟩ := front
  have seen := SignedNumeral.scan_eq_some_iff.mpr ⟨formed, rfl, ends_links _ linked rest⟩
  have rounds : links.length ≤ (links.flatMap Link.text ++ rest).length := by
    have := length_links_le links
    rw [List.length_append]
    omega
  have tail := chainTail_covers fit rounds rest
  have some : 0 < links.length := List.length_pos_iff.mpr linked
  have long := length_links_le links
  rw [chainText?, Chain.text, List.append_assoc, seen]
  dsimp only at *
  rw [if_neg]
  · refine ⟨_, rfl, ?_⟩
    rw [List.length_append, List.length_append]
    omega
  · rw [List.isEmpty_iff]
    intro none
    rw [none, List.length_nil] at tail
    omega

theorem chainText?_eq_some_iff {text lexeme : List Char} :
    chainText? text = some lexeme ↔ Longest IsChain lexeme text := by
  constructor
  · intro seen
    refine ⟨isChain_of_chainText? seen, (chainText?_sound seen).1, ?_⟩
    intro other chain front
    obtain ⟨lexeme', seen', longer⟩ := chain.exists_chainText? front
    rw [seen] at seen'
    cases seen'
    exact longer
  · intro longest
    obtain ⟨lexeme', seen, longer⟩ := longest.member.exists_chainText? longest.front
    have shorter := longest.longest lexeme' (isChain_of_chainText? seen) (chainText?_sound seen).1
    have same := List.prefix_of_prefix_length_le longest.front (chainText?_sound seen).1 longer
    rw [seen, same.eq_of_length (Nat.le_antisymm longer shorter)]

theorem chain?_takes : chain?.Takes IsChain where
  some before text glued lexeme seen := chainText?_eq_some_iff.mp (chain?_sound seen).1
  none before text unseen word chain front := by
    obtain ⟨lexeme, seen, _⟩ := chain.exists_chainText? front
    have missed : chainText? text = none := Option.map_eq_none_iff.mp unseen
    rw [seen] at missed
    cases missed

end Fortune.Template
