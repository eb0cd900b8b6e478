import Mathlib.Data.Nat.ModEq
import TicketRouting.Proofs.Text.LowerParts
import TicketRouting.Proofs.Text.SpelledItems
/-!
Lower case once and twice. What is in lower case stays as it is. Of a comma separated list the commas and
the white space stay, none are added, and no word goes on across them; so the items of a list in lower
case are those of the list, each in lower case.
-/
namespace TicketRouting.Text

section Tables

def avoids (low high : Nat) : List (Nat × Nat) → Bool
  | [] => true
  | (first, last) :: rest => high.blt first || (last.blt low && avoids low high rest)

/-- No entry sends `low`, `low + step`, … up to `high` anywhere. An entry that goes on in steps of its own
may pass by between them. -/
def leavesStretch (low high step : Nat) : List (Nat × Nat × Nat × Nat) → Bool
  | [] => true
  | (first, last, pace, _) :: rest =>
    high.blt first ||
      (last.blt low || (step % pace == 0 && low % pace != first % pace)) &&
        leavesStretch low high step rest

/-- What an entry sends code points to are letters in lower case, by code points: no entry sends them on. -/
def sendsToSmall : Nat × Nat × Nat × Nat → Bool
  | (first, last, step, target) =>
    let top := target + (last - first)
    Nat.ble 0x61 target && (top.blt 0x130 || Nat.blt 0x130 target) &&
      (top.blt 0xD800 || Nat.blt 0xDFFF target && top.blt 0x110000) &&
      avoids target top blankRanges &&
      leavesStretch target top (if first = last then 0 else step) lowerShifts

theorem table_sends_to_small : lowerShifts.all sendsToSmall = true := by decide +kernel

theorem blank_ranges_plain : (blankRanges.all fun (first, last) =>
    leavesStretch first last 1 lowerShifts && avoids first last casedRanges &&
      avoids first last caseIgnorableRanges) = true := by decide +kernel

variable {low high point : Nat}

theorem avoided (ranges : List (Nat × Nat)) (avoid : avoids low high ranges = true)
    (above : low ≤ point) (below : point ≤ high) : inRanges ranges point = false := by
  induction ranges with
  | nil => rfl
  | cons range rest ih =>
    obtain ⟨first, last⟩ := range
    simp only [avoids, Bool.or_eq_true, Bool.and_eq_true, Nat.blt_eq] at avoid
    simp only [inRanges, Bool.and_eq_false_imp, decide_eq_true_eq, Bool.or_eq_false_iff,
      decide_eq_false_iff_not]
    intro reached
    obtain before | ⟨behind, others⟩ := avoid
    · omega
    · exact ⟨by omega, ih others⟩

theorem range_of_point (ranges : List (Nat × Nat)) (inside : inRanges ranges point = true) :
    ∃ first last, (first, last) ∈ ranges ∧ first ≤ point ∧ point ≤ last := by
  induction ranges with
  | nil => cases inside
  | cons range rest ih =>
    obtain ⟨first, last⟩ := range
    simp only [inRanges, Bool.and_eq_true, decide_eq_true_eq, Bool.or_eq_true] at inside
    obtain ⟨above, below | later⟩ := inside
    · exact ⟨first, last, List.mem_cons_self, above, below⟩
    · obtain ⟨first, last, member, bounds⟩ := ih later
      exact ⟨first, last, List.mem_cons_of_mem _ member, bounds⟩

theorem pace_missed {step pace first : Nat} (whole : step % pace = 0)
    (beside : low % pace ≠ first % pace) (above : low ≤ point) (onStep : step ∣ point - low)
    (behind : first ≤ point) : (point - first) % pace ≠ 0 := by
  intro hit
  have fromFirst : first ≡ point [MOD pace] := (Nat.modEq_iff_dvd' behind).mpr
    (Nat.dvd_of_mod_eq_zero hit)
  have fromLow : low ≡ point [MOD pace] := (Nat.modEq_iff_dvd' above).mpr
    ((Nat.dvd_of_mod_eq_zero whole).trans onStep)
  exact beside (fromLow.trans fromFirst.symm)

theorem stretch_left {step : Nat} (table : List (Nat × Nat × Nat × Nat))
    (leaves : leavesStretch low high step table = true) (above : low ≤ point) (below : point ≤ high)
    (onStep : step ∣ point - low) : shifted table point = point := by
  induction table with
  | nil => rfl
  | cons entry rest ih =>
    obtain ⟨first, last, pace, target⟩ := entry
    simp only [leavesStretch, Bool.or_eq_true, Bool.and_eq_true, Nat.blt_eq, beq_iff_eq, bne_iff_ne]
      at leaves
    unfold shifted
    split
    · rfl
    · rename_i behind
      obtain before | ⟨passed, others⟩ := leaves
      · omega
      · have missed : (point ≤ last && (point - first) % pace == 0) = false := by
          obtain ended | ⟨whole, beside⟩ := passed
          · simp [Nat.not_le.mpr (Nat.lt_of_lt_of_le ended above)]
          · have off := pace_missed whole beside above onStep (Nat.not_lt.mp behind)
            simp [off]
        rw [missed]
        exact ih others

theorem shifted_cases (table : List (Nat × Nat × Nat × Nat)) (point : Nat) :
    shifted table point = point ∨ ∃ first last step target, (first, last, step, target) ∈ table ∧
      first ≤ point ∧ point ≤ last ∧ step ∣ point - first ∧
        shifted table point = target + (point - first) := by
  induction table with
  | nil => exact .inl rfl
  | cons entry rest ih =>
    obtain ⟨first, last, step, target⟩ := entry
    unfold shifted
    split
    · exact .inl rfl
    · rename_i behind
      split
      · rename_i hit
        simp only [Bool.and_eq_true, decide_eq_true_eq, beq_iff_eq] at hit
        exact .inr ⟨first, last, step, target, List.mem_cons_self, Nat.not_lt.mp behind, hit.1,
          Nat.dvd_of_mod_eq_zero hit.2, rfl⟩
      · obtain same | ⟨first, last, step, target, member, sent⟩ := ih
        · exact .inl same
        · exact .inr ⟨first, last, step, target, List.mem_cons_of_mem _ member, sent⟩

end Tables

section Letters

structure IsSmall (point : Nat) : Prop where
  behindCapitals : 0x61 ≤ point
  undotted : point ≠ 0x130
  valid : point.isValidChar
  unbroken : inRanges blankRanges point = false
  settled : shifted lowerShifts point = point

theorem small_of_entry {first last step target point : Nat}
    (member : (first, last, step, target) ∈ lowerShifts) (above : first ≤ point)
    (below : point ≤ last) (onStep : step ∣ point - first) : IsSmall (target + (point - first)) := by
  have sends := List.all_eq_true.mp table_sends_to_small _ member
  simp only [sendsToSmall, Bool.and_eq_true, Bool.or_eq_true, Nat.ble_eq, Nat.blt_eq] at sends
  obtain ⟨⟨⟨⟨letter, undotted⟩, valid⟩, unbroken⟩, leaves⟩ := sends
  refine ⟨by omega, by omega, ?_, avoided _ unbroken (by omega) (by omega),
    stretch_left _ leaves (by omega) (by omega) ?_⟩
  · unfold Nat.isValidChar
    omega
  · rw [Nat.add_sub_cancel_left]
    split
    · have same : point - first = 0 := by omega
      rw [same]
    · exact onStep

theorem to_lower_cases (c : Char) : c.toLower = c ∨ (0x41 ≤ c.toNat ∧ c.toNat ≤ 0x5A ∧
    c.toLower.toNat = 0x61 + (c.toNat - 0x41)) := by
  unfold Char.toLower
  split
  · rename_i capital
    have above : 0x41 ≤ c.toNat := UInt32.le_iff_toNat_le.mp capital.1
    have below : c.toNat ≤ 0x5A := UInt32.le_iff_toNat_le.mp capital.2
    have sum : (c.val + ('a'.val - 'A'.val)).toNat = c.toNat + 0x20 := by
      rw [UInt32.toNat_add]
      exact Nat.mod_eq_of_lt (by change c.toNat + 0x20 < 2 ^ 32; omega)
    exact .inr ⟨above, below, sum.trans (by omega)⟩
  · exact .inl rfl

theorem lower_char_same {c : Char} (ascii : c.toLower = c) (undotted : c ≠ '\u0130')
    (settled : shifted lowerShifts c.toNat = c.toNat) : lowerChar c = [c] := by
  unfold lowerChar
  rw [ascii, if_neg undotted, settled, Char.ofNat_toNat, ite_self]

theorem char_of_nat (point : Nat) (valid : point.isValidChar) : (Char.ofNat point).toNat = point := by
  rw [Char.ofNat, dif_pos valid]
  rfl

theorem small_stays {d : Char} (small : IsSmall d.toNat) : lowerChar d = [d] := by
  have undotted : d ≠ '\u0130' := by
    rintro rfl
    exact small.undotted rfl
  have ascii : d.toLower = d := by
    obtain same | ⟨-, below, -⟩ := to_lower_cases d
    · exact same
    · have behind := small.behindCapitals
      omega
  exact lower_char_same ascii undotted small.settled

theorem lower_char_cases (c : Char) :
    lowerChar c = [c] ∨ c = '\u0130' ∨ ∃ small, lowerChar c = [small] ∧ IsSmall small.toNat := by
  by_cases dotted : c = '\u0130'
  · exact .inr (.inl dotted)
  unfold lowerChar
  rw [if_neg dotted]
  split
  · obtain same | ⟨above, below, sent⟩ := to_lower_cases c
    · exact .inl (by rw [same])
    · have first : (0x41, 0x5A, 1, 0x61) ∈ lowerShifts := List.mem_cons_self
      exact .inr (.inr ⟨_, rfl, sent ▸ small_of_entry first above below (one_dvd _)⟩)
  · obtain same | ⟨first, last, step, target, member, above, below, onStep, sent⟩ :=
      shifted_cases lowerShifts c.toNat
    · exact .inl (by rw [same, Char.ofNat_toNat])
    · have small := small_of_entry member above below onStep
      refine .inr (.inr ⟨_, rfl, ?_⟩)
      rwa [sent, char_of_nat _ small.valid]

/-- What a character becomes is in lower case, and it becomes no break unless it is one. -/
theorem lower_char_result (c : Char) :
    ∀ d ∈ lowerChar c, lowerChar d = [d] ∧ (IsBreak d → d = c) := by
  obtain same | rfl | ⟨small, same, isSmall⟩ := lower_char_cases c
  · rw [same]
    intro d member
    obtain rfl := List.mem_singleton.mp member
    exact ⟨same, fun _ => rfl⟩
  · have dotted : lowerChar 'İ' = ['i', '\u0307'] := by decide +kernel
    rw [dotted, List.forall_mem_cons, List.forall_mem_singleton]
    decide +kernel
  · rw [same]
    intro d member
    obtain rfl := List.mem_singleton.mp member
    refine ⟨small_stays isSmall, fun breaks => ?_⟩
    obtain rfl | blank := breaks
    · exact absurd isSmall.behindCapitals (by decide)
    · exact absurd (blank.symm.trans isSmall.unbroken) (by decide)

theorem lower_at_result (before after : List Char) (c : Char) :
    ∀ d ∈ lowerAt before c after, lowerChar d = [d] ∧ (IsBreak d → d = c) := by
  unfold lowerAt
  split
  · intro d member
    obtain rfl := List.mem_singleton.mp member
    unfold lowerSigma
    split
    · exact ⟨by decide +kernel, fun breaks => absurd breaks (by decide +kernel)⟩
    · exact ⟨by decide +kernel, fun breaks => absurd breaks (by decide +kernel)⟩
  · exact lower_char_result c

end Letters

section Twice

theorem lower_from_result (before text : List Char) :
    ∀ d ∈ lowerFrom before text, lowerChar d = [d] ∧ (IsBreak d → d ∈ text) := by
  induction text generalizing before with
  | nil => simp [lowerFrom]
  | cons c rest ih =>
    intro d member
    rw [lowerFrom, List.mem_append] at member
    obtain here | later := member
    · obtain ⟨stays, breaks⟩ := lower_at_result before rest c d here
      exact ⟨stays, fun isBreak => breaks isBreak ▸ List.mem_cons_self⟩
    · obtain ⟨stays, breaks⟩ := ih (c :: before) d later
      exact ⟨stays, fun isBreak => List.mem_cons_of_mem c (breaks isBreak)⟩

/-- A text of characters in lower case stays: there is no capital sigma in it. -/
theorem lower_from_stays (before text : List Char) (low : ∀ c ∈ text, lowerChar c = [c]) :
    lowerFrom before text = text := by
  induction text generalizing before with
  | nil => rfl
  | cons c rest ih =>
    have stays := low c List.mem_cons_self
    have notSigma : c ≠ 'Σ' := by
      rintro rfl
      exact absurd stays (by decide +kernel)
    rw [lowerFrom, lowerAt, if_neg notSigma, stays,
      ih (c :: before) fun d member => low d (List.mem_cons_of_mem c member)]
    rfl

theorem lower_list_twice (text : List Char) : lowerList (lowerList text) = lowerList text := by
  simp only [lower_list_eq]
  exact lower_from_stays [] _ fun d member => (lower_from_result [] text d member).1

theorem lower_twice (text : String) : lower (lower text) = lower text := by
  simp only [lower, String.toList_ofList, lower_list_twice]

end Twice

section Breaks
variable {before part after : List Char}

theorem blank_low {c : Char} (blank : isBlank c = true)
    (settled : shifted lowerShifts c.toNat = c.toNat) : lowerChar c = [c] := by
  have undotted : c ≠ '\u0130' := by
    rintro rfl
    exact absurd blank (by decide)
  have ascii : c.toLower = c := by
    obtain same | ⟨above, below, -⟩ := to_lower_cases c
    · exact same
    · have unbroken := avoided blankRanges (by decide) above below
      exact absurd (blank.symm.trans unbroken) (by decide)
  exact lower_char_same ascii undotted settled

theorem break_plain {c : Char} (breaks : IsBreak c) :
    lowerChar c = [c] ∧ isCased c = false ∧ isCaseIgnorable c = false := by
  obtain rfl | blank := breaks
  · decide +kernel
  · obtain ⟨first, last, member, above, below⟩ := range_of_point blankRanges blank
    have plain := List.all_eq_true.mp blank_ranges_plain _ member
    simp only [Bool.and_eq_true] at plain
    obtain ⟨⟨leaves, uncased⟩, unignorable⟩ := plain
    have settled := stretch_left lowerShifts leaves above below (one_dvd _)
    exact ⟨blank_low blank settled, avoided _ uncased above below,
      avoided _ unignorable above below⟩

theorem lower_at_break (before after : List Char) {c : Char} (breaks : IsBreak c) :
    lowerAt before c after = [c] := by
  have notSigma : c ≠ 'Σ' := by
    rintro rfl
    exact absurd breaks (by decide +kernel)
  rw [lowerAt, if_neg notSigma, (break_plain breaks).1]

theorem break_meets_none {c : Char} (breaks : IsBreak c) (rest : List Char) :
    meetsCased (c :: rest) = false := by
  obtain ⟨-, uncased, unignorable⟩ := break_plain breaks
  rw [meets_cased_cons, unignorable]
  exact uncased

theorem filler_meets_none {filler : List Char} (fills : IsFiller filler) :
    meetsCased filler = false := by
  cases filler with
  | nil => rfl
  | cons c rest => exact break_meets_none (fills c List.mem_cons_self) rest

theorem lower_filler {filler : List Char} (fills : IsFiller filler) :
    lowerWithin after before filler = filler := by
  induction filler generalizing before with
  | nil => rfl
  | cons c rest ih =>
    rw [lowerWithin, lower_at_break _ _ (fills c List.mem_cons_self),
      ih fun d member => fills d (List.mem_cons_of_mem c member)]
    rfl

theorem lower_apart (opens : meetsCased before = false) (closes : meetsCased after = false) :
    lowerWithin after before part = lowerList part := by
  rw [lower_between part after before (by simp [closes]) (by simp [opens]), lower_within_alone,
    lower_list_eq]

theorem lower_surrounded (opens : IsFiller before) (closes : IsFiller after) :
    lowerList (before ++ part ++ after) = before ++ lowerList part ++ after := by
  have reversed : IsFiller before.reverse := fun c member => opens c (List.mem_reverse.mp member)
  rw [lower_list_append, lower_within_append, lower_filler opens, lower_filler closes,
    List.append_nil, lower_apart (filler_meets_none reversed) (filler_meets_none closes)]

theorem lower_list_comma (first second : List Char) :
    lowerList (first ++ ',' :: second) = lowerList first ++ ',' :: lowerList second := by
  have comma : IsBreak ',' := .inl rfl
  rw [lower_list_append, lowerWithin, lower_at_break _ _ comma,
    lower_apart rfl (break_meets_none comma _), lower_apart (break_meets_none comma _) rfl]
  rfl

end Breaks

section Items
variable {part : List Char}

theorem mem_lower_break {text : List Char} {d : Char} (breaks : IsBreak d)
    (member : d ∈ lowerList text) : d ∈ text := by
  rw [lower_list_eq] at member
  exact (lower_from_result [] text d member).2 breaks

theorem lower_at_filled (before after : List Char) (c : Char) : lowerAt before c after ≠ [] := by
  unfold lowerAt
  split
  · simp
  · obtain same | rfl | ⟨small, same, -⟩ := lower_char_cases c
    · simp [same]
    · decide +kernel
    · simp [same]

theorem lower_list_eq_nil (text : List Char) : lowerList text = [] ↔ text = [] := by
  rw [lower_list_eq]
  cases text with
  | nil => simp [lowerFrom]
  | cons c rest => simp [lowerFrom, lower_at_filled]

theorem unbroken_at (before after : List Char) {c d : Char} (kept : isBlank c = false)
    (member : d ∈ lowerAt before c after) : isBlank d = false := by
  by_contra blank
  have breaks : IsBreak d := .inr (by simpa using blank)
  rw [(lower_at_result before after c d member).2 breaks] at blank
  exact blank kept

theorem lower_trimmed (trimmed : IsTrimmed part) : IsTrimmed (lowerList part) where
  front := by
    intro d first
    cases part with
    | nil => cases first
    | cons c rest =>
      have begins := List.head?_eq_some_head (lower_at_filled [] rest c)
      rw [lower_list_eq, lowerFrom, List.head?_append, begins] at first
      obtain rfl := Option.some.inj first
      exact unbroken_at [] rest (trimmed.front c rfl) (List.head_mem _)
  back := by
    intro d last
    obtain rfl | ⟨start, c, rfl⟩ := List.eq_nil_or_concat part
    · cases last
    · rw [List.concat_eq_append] at trimmed last
      have ends := List.getLast?_eq_some_getLast (lower_at_filled start.reverse [] c)
      rw [lower_list_append, lowerWithin, lowerWithin, List.append_nil, List.getLast?_append,
        List.append_nil, ends] at last
      obtain rfl := Option.some.inj last
      exact unbroken_at _ _ (trimmed.back c (by simp)) (List.getLast_mem _)

theorem trim_lower (part : List Char) : trim (lowerList part) = lowerList (trim part) := by
  obtain ⟨lead, trail, opens, closes, parts, trimmed⟩ := trim_parts part
  have low : lowerList (lead ++ trim part ++ trail) = lead ++ lowerList (trim part) ++ trail :=
    lower_surrounded (blank_filler opens) (blank_filler closes)
  rw [← parts] at low
  rw [low, trim_between opens closes (lower_trimmed trimmed)]

theorem items_lower (text : List Char) : items (lowerList text) = (items text).map lowerList := by
  have wholePart (part : List Char) (whole : ',' ∉ part) :
      items (lowerList part) = (items part).map lowerList := by
    have wholeLow : ',' ∉ lowerList part := fun comma => whole (mem_lower_break (.inl rfl) comma)
    rw [items_whole _ wholeLow, items_whole part whole, trim_lower]
    by_cases blank : trim part = []
    · simp [blank, lower_list_eq, lowerFrom]
    · simp [blank, lower_list_eq_nil]
  induction text using comma_induction with
  | one part whole => exact wholePart part whole
  | more part rest whole ih =>
    rw [lower_list_comma, items_append, items_append, List.map_append, wholePart part whole, ih]

theorem split_items_lower (text : String) : splitItems (lower text) = (splitItems text).map lower := by
  simp only [splitItems, lower, String.toList_ofList, items_lower, List.map_map]
  apply List.map_congr_left
  intro item _
  simp only [Function.comp_apply, lower, String.toList_ofList]

end Items

end TicketRouting.Text
