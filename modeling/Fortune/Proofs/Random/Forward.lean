import Fortune.Random.Range

/-!
What drawing does to a source: it moves forward along its words, and the words stay as they are.
Samples from ranges take as many words as they need, and no other way back or aside is open to them.
-/
namespace Fortune

theorem Source.advance_advance (source : Source) (first second : Nat) :
    (source.advance first).advance second = source.advance (first + second) := by
  simp only [advance, Nat.add_assoc]

namespace Draw

variable {α β : Type}

/-- The source moves forward, by a number of words that may depend on them. -/
def Forward (act : Draw α) : Prop := ∀ source, ∃ count, (act source).2 = source.advance count

namespace Forward

theorem pure (a : α) : Forward (pure a) := fun _ => ⟨0, rfl⟩

theorem bind {act : Draw α} {next : α → Draw β} (first : Forward act)
    (later : ∀ a, Forward (next a)) : Forward (act >>= next) := by
  intro source
  obtain ⟨count, moved⟩ := first source
  obtain ⟨count', moved'⟩ := later (act source).1 (act source).2
  refine ⟨count + count', ?_⟩
  change (next (act source).1 (act source).2).2 = _
  rw [moved', moved, Source.advance_advance]

end Forward

theorem forward_word32 : Forward word32 := fun _ => ⟨1, rfl⟩

theorem forward_word64 : Forward word64 :=
  forward_word32.bind fun _ => forward_word32.bind fun _ => .pure _

theorem forward_signed64 : Forward signed64 := forward_word64.bind fun _ => .pure _

theorem forward_below (span : Nat) {word : Draw Nat} (forward : Forward word) (size : Nat) :
    Forward (below span word size) := by
  refine forward.bind fun w => ?_
  dsimp only
  split
  · exact forward.bind fun _ => .pure _
  · exact .pure _

theorem forward_index (size : Nat) : Forward (index size) := by
  unfold index
  split
  · exact forward_below _ (forward_word32.bind fun _ => .pure _) size
  · exact forward_below _ (forward_word64.bind fun _ => .pure _) size

theorem forward_integer (lowest highest : Int) : Forward (integer lowest highest) := by
  unfold integer
  dsimp only
  split
  · exact forward_signed64.bind fun _ => .pure _
  · exact (forward_below _ (forward_word64.bind fun _ => .pure _) _).bind fun _ => .pure _

theorem forward_real (lowest highest : Float) : Forward (real lowest highest) :=
  forward_word64.bind fun _ => .pure _

end Draw
end Fortune
