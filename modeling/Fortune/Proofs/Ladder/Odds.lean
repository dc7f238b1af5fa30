import Fortune.Proofs.Ladder.Exact

/-!
Odds. Between two entries of a ladder only their own chances and lucks count, and luck counts for
more the greater the bias is.
-/
namespace Fortune.Ladder

/-- The weight of one rung over that of another. -/
def odds? (l : Ladder Rat) (i j : Nat) : Option Rat := do
  return (← l.weight? i) / (← l.weight? j)

theorem curve_eq_zpow (bias : Int) :
    curve bias = (base bias : Rat) ^ (if 0 ≤ bias then 1 else -1 : Int) := by
  unfold curve
  split
  · rw [zpow_one]
  · rw [zpow_neg_one]

theorem curve_of_nonneg {bias : Int} (h : 0 ≤ bias) :
    curve bias = 1 / (1 - bias * (77 / 10000)) := by
  have h' : (0 : Rat) ≤ bias := by exact_mod_cast h
  rw [curve, if_pos h, base_eq, abs_of_nonneg h']

theorem curve_of_neg {bias : Int} (h : bias < 0) : curve bias = 1 + bias * (77 / 10000) := by
  have h' : (bias : Rat) < 0 := by exact_mod_cast h
  rw [curve, if_neg (not_le.mpr h), base_eq, abs_of_neg h', one_div, inv_inv]
  ring

theorem curve_zero : curve 0 = 1 := by
  rw [curve_of_nonneg le_rfl]
  norm_num

theorem Moderate.one_le_curve {bias : Int} (moderate : Moderate bias) (h : 0 ≤ bias) :
    1 ≤ curve bias := by
  have h' : (0 : Rat) ≤ bias := by exact_mod_cast h
  have denominator := moderate.denominator_pos
  rw [abs_of_nonneg h'] at denominator
  rw [curve_of_nonneg h, le_div_iff₀ denominator]
  linarith

/-- Both branches of the curve rise, and one lies below the other. -/
theorem Moderate.curve_lt {bias more : Int} (moderate : Moderate more) (less : bias < more) :
    curve bias < curve more := by
  have less' : (bias : Rat) < more := by exact_mod_cast less
  -- A negative bias keeps the curve below one, any other does not.
  rcases le_or_gt 0 bias with nonneg | neg
  · have nonneg' : 0 ≤ more := nonneg.trans less.le
    have positive : (0 : Rat) ≤ more := by exact_mod_cast nonneg'
    have denominator := moderate.denominator_pos
    rw [abs_of_nonneg positive] at denominator
    rw [curve_of_nonneg nonneg, curve_of_nonneg nonneg']
    exact one_div_lt_one_div_of_lt denominator (by linarith)
  · have neg' : (bias : Rat) < 0 := by exact_mod_cast neg
    rw [curve_of_neg neg]
    rcases le_or_gt 0 more with above | below
    · have one := moderate.one_le_curve above
      linarith
    · rw [curve_of_neg below]
      linarith

theorem odds?_ofEntries {entries : List (Entry Rat)} {bias : Int} (moderate : Moderate bias)
    {i j : Nat} {a b : Entry Rat} (hi : entries[i]? = some a) (hj : entries[j]? = some b) :
    (ofEntries entries bias).odds? i j =
      some (positiveChance a.chance / positiveChance b.chance *
        curve bias ^ (a.luck - b.luck)) := by
  have ha := List.mem_of_getElem? hi
  have hb := List.mem_of_getElem? hj
  have shared := (moderate.scale_pos (lowest entries) (highest entries)).ne'
  rw [odds?, weight?_ofEntries hi, weight?_ofEntries hj,
    entryWeight_eq moderate (lowest_le ha) (le_highest ha),
    entryWeight_eq moderate (lowest_le hb) (le_highest hb)]
  change some (_ / _) = _
  rw [mul_div_mul_right _ _ shared, mul_div_mul_comm, zpow_sub₀ moderate.curve_pos.ne']

/-- Odds in a list of two or more entries under a bias for which weights mean something: weights are
positive; the odds are the quotient of the chances, times the curve to the difference of the lucks;
they are the same in every other list, the quotient of the chances without a bias, and rise with the
bias for the luckier entry. -/
theorem odds_exact {entries : List (Entry Rat)} {bias : Int} (moderate : |bias| ≤ 129) {i j : Nat}
    {a b : Entry Rat} (hi : entries[i]? = some a) (hj : entries[j]? = some b) :
    let l := ofEntries entries bias
    let c : Entry Rat → Rat := fun e => if 0 < e.chance then e.chance else 1
    let B : Rat := 1 / (1 - |(bias : Rat)| * (77 / 10000))
    let s : Int := if 0 ≤ bias then 1 else -1
    (∃ v w, l.weight? i = some v ∧ l.weight? j = some w ∧ 0 < v ∧ 0 < w ∧
      v / w = c a / c b * B ^ (s * (a.luck - b.luck))) ∧
    (∀ others k m, others[k]? = some a → others[m]? = some b →
      (ofEntries others bias).odds? k m = l.odds? i j) ∧
    (bias = 0 → l.odds? i j = some (c a / c b)) ∧
    ∀ more, bias < more → |more| ≤ 129 → b.luck < a.luck →
      ∃ x y, l.odds? i j = some x ∧ (ofEntries entries more).odds? i j = some y ∧ x < y := by
  intro l c B s
  have odds : l.odds? i j = some (c a / c b * curve bias ^ (a.luck - b.luck)) :=
    odds?_ofEntries moderate hi hj
  refine ⟨?_, ?_, ?_, ?_⟩
  · have power : curve bias ^ (a.luck - b.luck) = B ^ (s * (a.luck - b.luck)) := by
      rw [curve_eq_zpow, base_eq, ← zpow_mul]
    rw [power, odds?, weight?_ofEntries hi, weight?_ofEntries hj] at odds
    exact ⟨_, _, weight?_ofEntries hi bias, weight?_ofEntries hj bias,
      entryWeight_pos moderate _ _ a, entryWeight_pos moderate _ _ b, Option.some.inj odds⟩
  · intro others k m hk hm
    rw [odds]
    exact odds?_ofEntries moderate hk hm
  · rintro rfl
    rw [odds, curve_zero, one_zpow, mul_one]
  · intro more less moderate' luckier
    refine ⟨_, _, odds, odds?_ofEntries moderate' hi hj, ?_⟩
    have quotient : 0 < c a / c b :=
      div_pos (positiveChance_pos a.chance) (positiveChance_pos b.chance)
    have difference : 0 < a.luck - b.luck := sub_pos.mpr luckier
    have power : curve bias ^ (a.luck - b.luck) < curve more ^ (a.luck - b.luck) :=
      zpow_lt_zpow_left₀ difference (Moderate.curve_pos moderate).le
        (Moderate.curve_lt moderate' less)
    exact mul_lt_mul_of_pos_left power quotient

/-- Eight points of luck, against a bias of minus ten. -/
theorem odds_of_unlucky :
    let entries : List (Entry Rat) := [⟨-3, 0⟩, ⟨5, 2⟩]
    |(-10 : Int)| ≤ 129 ∧ entries[1]? = some ⟨5, 2⟩ ∧ entries[0]? = some ⟨-3, 0⟩ ∧
    ∃ v w, (ofEntries entries (-10)).weight? 1 = some v ∧
      (ofEntries entries (-10)).weight? 0 = some w ∧ 0 < v ∧ 0 < w ∧
      v / w = 2 * (923 / 1000) ^ 8 := by
  intro entries
  have moderate : |(-10 : Int)| ≤ 129 := by decide
  have lucky : entries[1]? = some ⟨5, 2⟩ := rfl
  have unlucky : entries[0]? = some ⟨-3, 0⟩ := rfl
  obtain ⟨⟨v, w, hv, hw, v_pos, w_pos, quotient⟩, _⟩ := odds_exact moderate lucky unlucky
  refine ⟨moderate, lucky, unlucky, v, w, hv, hw, v_pos, w_pos, quotient.trans ?_⟩
  norm_num

end Fortune.Ladder
