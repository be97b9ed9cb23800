import IrPitCrew.Client.PitCrew
import IrPitCrew.Plugin.PitCommand
import Mathlib.Data.Rat.Floor

/-!
# The plugin reads what the client wrote

Each name of a choice has a letter that the fuel line lacks, and no name holds
another one, so a name is found exactly when its choice was checked.
-/

open IrPitCrew.Text IrPitCrew.Decimal IrPitCrew.Rounding IrPitCrew.Binary IrPitCrew.Client
open IrPitCrew.Plugin

namespace IrPitCrew.PitMessage

/-! ## The lines of a message -/

def choices (p : PitSettings) : List (Bool × String) :=
  [(p.tires.leftFront, "LeftFront"), (p.tires.rightFront, "RightFront"),
   (p.tires.leftRear, "LeftRear"), (p.tires.rightRear, "RightRear"),
   (p.isFastRepairChecked, "FastRepair"), (p.isWindshieldChecked, "Windshield")]

def checkedLines (cs : List (Bool × String)) : Str := cs.flatMap fun c => checkedLine c.1 c.2

theorem message_eq (p : PitSettings) :
    p.message = '\n' :: ("Fuel;".toList ++ printInt p.fuelToAdd ++ '\n' :: checkedLines (choices p)) := by
  simp [PitSettings.message, checkedLines, choices]

theorem message_ne_nil (p : PitSettings) : p.message ≠ [] := by simp [message_eq]

theorem contains_checkedLines (pat : Str) (hne : pat ≠ []) (hnl : '\n' ∉ pat)
    (cs : List (Bool × String)) :
    contains pat (checkedLines cs) = cs.any fun c => contains pat c.2.toList && c.1 := by
  induction cs with
  | nil => simp [checkedLines, contains, indexOf, hne]
  | cons c cs ih =>
    rw [List.any_cons, ← ih, checkedLines, List.flatMap_cons, ← checkedLines, checkedLine]
    cases c.1 with
    | true =>
      rw [if_pos rfl, Bool.and_true, List.append_assoc, List.singleton_append,
        contains_append_cons _ _ _ _ hnl]
    | false => simp

/-- A name with a letter that the fuel line lacks. -/
theorem contains_message (p : PitSettings) (pat : Str) (c : Char) (hc : c ∈ pat)
    (hfuel : c ∉ "Fuel;".toList) (hnumber : ¬ NumberChar c) (hnl : '\n' ∉ pat) :
    contains pat p.message = (choices p).any fun choice => contains pat choice.2.toList && choice.1 := by
  have hne : pat ≠ [] := List.ne_nil_of_mem hc
  have hline : contains pat ("Fuel;".toList ++ printInt p.fuelToAdd) = false := by
    apply contains_eq_false_of_notMem pat _ c hc
    intro h
    rcases List.mem_append.mp h with h | h
    · exact hfuel h
    · exact hnumber (printInt_chars _ c h)
  have hfirst : contains pat [] = false := contains_eq_false_of_notMem pat [] c hc (by simp)
  rw [message_eq, ← List.nil_append ('\n' :: _), contains_append_cons _ _ _ _ hnl, hfirst,
    Bool.false_or, contains_append_cons _ _ _ _ hnl, hline, Bool.false_or,
    contains_checkedLines pat hne hnl]

/-! ## Reading -/

theorem readFuelToAdd_message (readInt : ℤ → ℤ) (p : PitSettings) :
    readFuelToAdd readInt p.message = readInt p.fuelToAdd := by
  set rest := printInt p.fuelToAdd ++ '\n' :: checkedLines (choices p) with hrest
  have hmessage : p.message = '\n' :: 'F' :: 'u' :: 'e' :: 'l' :: ';' :: rest := by
    rw [message_eq, List.append_assoc, ← hrest]
    rfl
  have hpos : indexOf "Fuel".toList p.message = some 1 := by rw [hmessage]; rfl
  have hval : indexOfFrom [';'] p.message 1 = some 5 := by rw [hmessage]; rfl
  have hlength : 5 + 1 < p.message.length := by
    rw [hmessage, hrest]
    simp only [List.length_cons, List.length_append]
    omega
  have hdrop : p.message.drop (5 + 1) = rest := by rw [hmessage]; rfl
  unfold readFuelToAdd
  simp only [hpos, hval]
  rw [if_pos hlength, hdrop, atoi_printInt_append _ _ (by simp)]

def foundIn (name : String) : List Bool :=
  ["LeftFront", "RightFront", "LeftRear", "RightRear", "FastRepair", "Windshield"].map
    fun other => contains name.toList other.toList

theorem any_choices (p : PitSettings) (name : String) :
    ((choices p).any fun choice => contains name.toList choice.2.toList && choice.1) =
      (List.zipWith and (foundIn name) ((choices p).map Prod.fst)).any id := rfl

/-- **Read of write.** -/
theorem readPitRequest_message (readInt : ℤ → ℤ) (p : PitSettings) :
    readPitRequest readInt p.message =
      { fuelToAddDisplay := readInt p.fuelToAdd
        isCheckedLeftFront := p.tires.leftFront
        isCheckedRightFront := p.tires.rightFront
        isCheckedLeftRear := p.tires.leftRear
        isCheckedRightRear := p.tires.rightRear
        isCheckedFastRepair := p.isFastRepairChecked
        isCheckedWindshield := p.isWindshieldChecked } := by
  have found (name : String) (c : Char) (row : List Bool)
      (h : c ∈ name.toList ∧ c ∉ "Fuel;".toList ∧ ¬ NumberChar c ∧ '\n' ∉ name.toList)
      (hrow : foundIn name = row) :
      contains name.toList p.message = (List.zipWith and row ((choices p).map Prod.fst)).any id := by
    obtain ⟨hc, hfuel, hnumber, hnl⟩ := h
    rw [contains_message p _ c hc hfuel hnumber hnl, any_choices, hrow]
  unfold readPitRequest
  rw [readFuelToAdd_message,
    found "LeftFront" 'L' [true, false, false, false, false, false] (by decide) (by decide),
    found "RightFront" 'R' [false, true, false, false, false, false] (by decide) (by decide),
    found "LeftRear" 'L' [false, false, true, false, false, false] (by decide) (by decide),
    found "RightRear" 'R' [false, false, false, true, false, false] (by decide) (by decide),
    found "FastRepair" 'R' [false, false, false, false, true, false] (by decide) (by decide),
    found "Windshield" 'W' [false, false, false, false, false, true] (by decide) (by decide)]
  simp [choices]

theorem handlePitCommandMessage_message {K : Type*} [Field K] [LinearOrder K] [FloorRing K]
    (a : Arith K) (factor : K) (skip : Bool) (p : PitSettings) :
    handlePitCommandMessage a factor skip p.message =
      (readPitRequest a.readInt p.message).commands a factor skip :=
  if_pos (message_ne_nil p)

/-! ## The litres of what was sent -/

variable {K : Type*} [Field K] [LinearOrder K] [FloorRing K] [IsStrictOrderedRing K]

theorem fuelToAddInLitres_of_nonneg (c : K) (n : ℤ) (hc : 0 < c) (hn : 0 ≤ n) :
    fuelToAddInLitres .exact c n = ⌊(n : K) / c + 1 / 2⌋ := by
  have hamount : (0 : K) ≤ n := Int.cast_nonneg hn
  apply truncate_of_nonneg
  change (0 : K) ≤ n / c + 1 / 2
  positivity

/-- `n / c + 1 / 2` in doubles, without what follows the point. -/
def litres (c : K) (n : ℤ) : ℤ := ⌊double.round (double.round ((n : K) / c) + 1 / 2)⌋

theorem litres_nonneg (c : K) (n : ℤ) (hc : 0 < c) (hn : 0 ≤ n) : 0 ≤ litres c n := by
  have hamount : (0 : K) ≤ n := Int.cast_nonneg hn
  have hquotient : 0 ≤ double.round ((n : K) / c) := double.round_nonneg (by positivity)
  exact Int.floor_nonneg.mpr (double.round_nonneg (by linarith))

theorem fuelToAddInLitres_machine (c : K) (n : ℤ) (hc : 0 < c) (hn : 0 ≤ n)
    (hlitres : litres c n ≤ Arith.intMax) : fuelToAddInLitres .machine c n = litres c n := by
  have hnonneg := litres_nonneg c n hc hn
  have hmin : Arith.intMin ≤ litres c n := le_trans (by decide) hnonneg
  have htruncate : truncate (double.round (double.round ((n : K) / c) + 1 / 2)) = litres c n :=
    truncate_of_nonneg (Int.floor_nonneg.mp hnonneg)
  change (Arith.machine : Arith K).castInt (truncate (double.round (double.round ((n : K) / c) + 1 / 2))) = _
  rw [htruncate, Arith.castInt_machine hmin hlitres]

omit [LinearOrder K] [FloorRing K] [IsStrictOrderedRing K] in
theorem holds_int {k : ℤ} (h0 : 0 ≤ k) (h : k ≤ 2147483648) : double.Holds (k : K) := by
  refine double.holds_intCast k ?_ (by decide)
  rw [abs_of_nonneg h0]
  exact h.trans (by decide)

omit [FloorRing K] in
theorem holds_sub_half {k : ℤ} (h0 : 0 ≤ k) (h : k ≤ 2147483648) : double.Holds ((k : K) - 1 / 2) := by
  refine ⟨2 * k - 1, -1, ?_, by decide, ?_⟩
  · change |2 * k - 1| ≤ 9007199254740992
    rw [abs_le]
    omega
  · rw [zpow_neg_one]
    push_cast
    ring

/-- Below the limit of an `int` the doubles are near the numbers. -/
theorem abs_sum_sub_le {c : K} {n : ℤ} (hc : 0 < c) (hn : 0 ≤ n) (hlitres : litres c n ≤ Arith.intMax) :
    (n : K) / c + 1 / 2 < 2147483648 ∧
      |double.round (double.round ((n : K) / c) + 1 / 2) - (n / c + 1 / 2)| < 1 / 10 ^ 6 := by
  have hpos : (0 : K) ≤ n / c := div_nonneg (Int.cast_nonneg hn) hc.le
  have hlimit : double.Holds (2147483648 : K) := by exact_mod_cast holds_int (K := K) (by decide) le_rfl
  have hlimit' : double.Holds (2147483648 - 1 / 2 : K) := by
    exact_mod_cast holds_sub_half (K := K) (by decide) le_rfl
  have hsum : double.round (double.round ((n : K) / c) + 1 / 2) < 2147483648 := by
    refine (Int.floor_lt.mp (Int.lt_add_one_of_le hlitres)).trans_eq ?_
    norm_num [Arith.intMax]
  have hquotient : double.round ((n : K) / c) + 1 / 2 < 2147483648 := by
    by_contra h
    exact absurd (double.le_round_of_le hlimit (not_lt.mp h)) (not_le.mpr hsum)
  have hexact : (n : K) / c + 1 / 2 < 2147483648 := by
    by_contra h
    have hle := double.le_round_of_le hlimit' (show 2147483648 - 1 / 2 ≤ (n : K) / c by linarith)
    linarith
  have hpower : (2 : K) ^ (31 : ℤ) = 2147483648 := by norm_cast
  have hround : ∀ x : K, 0 ≤ x → x < 2147483648 → |double.round x - x| ≤ 2 ^ (-22 : ℤ) / 2 := by
    intro x h0 hx
    refine double.abs_round_sub_le_of_abs_le (k := 31) ?_ (by decide)
    rw [abs_of_nonneg h0, hpower]
    exact hx.le
  have hq := abs_le.mp (hround _ hpos (by linarith))
  have hs := abs_le.mp (hround _ (by linarith [double.round_nonneg hpos]) hquotient)
  have hsmall : (2 : K) ^ (-22 : ℤ) < 1 / 10 ^ 6 := by
    rw [zpow_neg, show (2 : K) ^ (22 : ℤ) = 4194304 by norm_cast]
    norm_num
  refine ⟨hexact, abs_lt.mpr ⟨?_, ?_⟩⟩ <;> linarith

/-- The whole part of the numbers, or one more right below a whole number. -/
theorem litres_cases {c : K} {n : ℤ} (hc : 0 < c) (hn : 0 ≤ n) (hlitres : litres c n ≤ Arith.intMax) :
    litres c n = ⌊(n : K) / c + 1 / 2⌋ ∨
      litres c n = ⌊(n : K) / c + 1 / 2⌋ + 1 ∧ (litres c n : K) - (n / c + 1 / 2) < 1 / 10 ^ 6 := by
  obtain ⟨hlimit, hnear⟩ := abs_sum_sub_le hc hn hlitres
  rw [abs_lt] at hnear
  have hpos : (0 : K) ≤ n / c := div_nonneg (Int.cast_nonneg hn) hc.le
  have hfloor := Int.floor_le ((n : K) / c + 1 / 2)
  have hupper := Int.lt_floor_add_one ((n : K) / c + 1 / 2)
  have hnonneg : 0 ≤ ⌊(n : K) / c + 1 / 2⌋ := Int.floor_nonneg.mpr (by linarith)
  have hsmall : ⌊(n : K) / c + 1 / 2⌋ ≤ 2147483648 := by
    have hlt : ⌊(n : K) / c + 1 / 2⌋ < 2147483648 := Int.floor_lt.mpr (by exact_mod_cast hlimit)
    exact hlt.le
  -- A whole number and a half less are doubles, so rounding does not get below them.
  have hle : ⌊(n : K) / c + 1 / 2⌋ ≤ litres c n := by
    have hquotient := double.le_round_of_le (holds_sub_half (K := K) hnonneg hsmall)
      (show (⌊(n : K) / c + 1 / 2⌋ : K) - 1 / 2 ≤ n / c by linarith)
    exact Int.le_floor.mpr (double.le_round_of_le (holds_int hnonneg hsmall) (by linarith))
  have hbelow : (litres c n : K) ≤ double.round (double.round ((n : K) / c) + 1 / 2) := Int.floor_le _
  have hge : litres c n ≤ ⌊(n : K) / c + 1 / 2⌋ + 1 := by
    have hlt : (litres c n : K) < ((⌊(n : K) / c + 1 / 2⌋ + 2 : ℤ) : K) := by
      push_cast
      linarith
    have hltInt : litres c n < ⌊(n : K) / c + 1 / 2⌋ + 2 := by exact_mod_cast hlt
    omega
  rcases hle.eq_or_lt with heq | hlt
  · exact .inl heq.symm
  · exact .inr ⟨by omega, by linarith⟩

/-! ## The commands of what was sent -/

/-- **Decode of encode.** The commands of a message are those of its settings, in the order of the
plugin, with the fuel rounded to whole litres and left out at 0, as long as an `int` holds the amount
and the litres. -/
theorem handlePitCommandMessage_sent (p : PitSettings) (c : K) (skip : Bool) (hc : 0 < c)
    (hn : 0 ≤ p.fuelToAdd) (hint : p.fuelToAdd ≤ Arith.intMax)
    (hlitres : litres c p.fuelToAdd ≤ Arith.intMax) :
    handlePitCommandMessage .machine c skip p.message =
      (if skip then [] else [.clear]) ++
      (if p.isWindshieldChecked then [.ws] else []) ++
      (if p.isFastRepairChecked then [.fr] else []) ++
      (if litres c p.fuelToAdd > 0 then [.fuel (litres c p.fuelToAdd)] else []) ++
      (if p.tires.leftFront then [.lf] else []) ++ (if p.tires.rightFront then [.rf] else []) ++
      (if p.tires.leftRear then [.lr] else []) ++ (if p.tires.rightRear then [.rr] else []) ∧
    (litres c p.fuelToAdd = ⌊(p.fuelToAdd : K) / c + 1 / 2⌋ ∨
      litres c p.fuelToAdd = ⌊(p.fuelToAdd : K) / c + 1 / 2⌋ + 1 ∧
        (litres c p.fuelToAdd : K) - (p.fuelToAdd / c + 1 / 2) < 1 / 10 ^ 6) := by
  refine ⟨?_, litres_cases hc hn hlitres⟩
  rw [handlePitCommandMessage_message, readPitRequest_message,
    Arith.readInt_machine (le_trans (by decide) hn) hint, PitRequest.commands,
    fuelToAddInLitres_machine c p.fuelToAdd hc hn hlitres]

/-- 40 kg at 0.75 kg a litre, with the left tires and the windshield. -/
theorem handlePitCommandMessage_kilograms :
    handlePitCommandMessage .machine (3 / 4 : ℚ) false
      (PitSettings.message ⟨40, { leftFront := true, leftRear := true }, false, true⟩) =
      [.clear, .ws, .fuel 53, .lf, .lr] := by
  rw [(handlePitCommandMessage_sent _ _ _ (by norm_num) (by decide) (by decide) (by decide +kernel)).1]
  decide +kernel

/-- An amount too large for an `int`. And 1 at a factor of 0.4: the quotient by the double of the factor
is less than 2.5, and rounded to a double it is 2.5. -/
theorem handlePitCommandMessage_rounded :
    handlePitCommandMessage .machine (1 : ℚ) false (PitSettings.message ⟨99999999999, {}, false, false⟩) =
        [.clear, .fuel 2147483647] ∧
      ⌊(99999999999 : ℚ) / 1 + 1 / 2⌋ = 99999999999 ∧
      handlePitCommandMessage .machine (double.round (2 / 5 : ℚ)) false
          (PitSettings.message ⟨1, {}, false, false⟩) = [.clear, .fuel 3] ∧
      ⌊1 / double.round (2 / 5 : ℚ) + 1 / 2⌋ = 2 := by
  refine ⟨?_, ?_, ?_, ?_⟩ <;> decide +kernel

end IrPitCrew.PitMessage
