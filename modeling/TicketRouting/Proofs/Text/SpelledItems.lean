import Mathlib.Data.List.TakeWhile
import TicketRouting.Text.Basic
/-!
Comma separated lists and the texts that spell them. Cutting at commas takes joining with commas back,
whatever white space and further commas stand around the items.
-/
namespace TicketRouting.Text

structure IsTrimmed (text : List Char) : Prop where
  front : ∀ c ∈ text.head?, isBlank c = false
  back : ∀ c ∈ text.getLast?, isBlank c = false

structure IsItem (item : List Char) : Prop extends IsTrimmed item where
  filled : item ≠ []
  whole : ',' ∉ item

instance : DecidablePred IsItem := fun item =>
  decidable_of_iff ((item.head?.all (!isBlank ·) && item.getLast?.all (!isBlank ·) &&
      !item.isEmpty && !item.contains ',') = true) <| by
    simp only [Bool.and_eq_true, Option.all_eq_true, Bool.not_eq_true', List.isEmpty_eq_false_iff,
      List.contains_eq_mem, decide_eq_false_iff_not]
    exact ⟨fun ⟨⟨⟨front, back⟩, filled⟩, whole⟩ => ⟨⟨front, back⟩, filled, whole⟩,
      fun ⟨⟨front, back⟩, filled, whole⟩ => ⟨⟨⟨front, back⟩, filled⟩, whole⟩⟩

def IsBreak (c : Char) : Prop := c = ',' ∨ isBlank c = true

instance : DecidablePred IsBreak := fun c => inferInstanceAs (Decidable (c = ',' ∨ isBlank c = true))

def IsFiller (text : List Char) : Prop := ∀ c ∈ text, IsBreak c

instance : DecidablePred IsFiller := fun text => List.decidableBAll IsBreak text

/-- The items stand in the text in this order, and besides them only commas and white space; between two
items is a comma. -/
inductive Spells : List (List Char) → List Char → Prop where
  | nothing (filler : List Char) (fills : IsFiller filler) : Spells [] filler
  | last (before item after : List Char) (opens : IsFiller before) (closes : IsFiller after) :
    Spells [item] (before ++ item ++ after)
  | next (before item after : List Char) (opens : IsFiller before) (closes : IsFiller after)
    (rest : List (List Char)) (text : List Char) (others : Spells rest text) :
    Spells (item :: rest) (before ++ item ++ after ++ ',' :: text)

section Trimming
variable {lead core trail : List Char}

theorem drop_blank_front (lead : List Char) (blank : ∀ c ∈ lead, isBlank c = true)
    (front : ∀ c ∈ core.head?, isBlank c = false) : (lead ++ core).dropWhile isBlank = core := by
  rw [List.dropWhile_append_of_pos blank]
  cases core with
  | nil => rfl
  | cons c rest => exact List.dropWhile_cons_of_neg (by simp [front c rfl])

theorem trim_blank {text : List Char} (blank : ∀ c ∈ text, isBlank c = true) : trim text = [] := by
  rw [trim, trimStart, List.dropWhile_eq_nil_iff.mpr blank]
  rfl

theorem trim_between (opens : ∀ c ∈ lead, isBlank c = true) (closes : ∀ c ∈ trail, isBlank c = true)
    (trimmed : IsTrimmed core) : trim (lead ++ core ++ trail) = core := by
  cases core with
  | nil =>
    rw [List.append_nil]
    exact trim_blank fun c member => (List.mem_append.mp member).elim (opens c) (closes c)
  | cons c rest =>
    have started : trimStart (lead ++ (c :: rest) ++ trail) = (c :: rest) ++ trail := by
      rw [List.append_assoc]
      exact drop_blank_front lead opens fun d first => trimmed.front d first
    rw [trim, started, trimEnd, List.reverse_append, drop_blank_front, List.reverse_reverse]
    · exact fun d member => closes d (List.mem_reverse.mp member)
    · rw [List.head?_reverse]
      exact trimmed.back

theorem trim_parts (text : List Char) :
    ∃ lead trail, (∀ c ∈ lead, isBlank c = true) ∧ (∀ c ∈ trail, isBlank c = true) ∧
      text = lead ++ trim text ++ trail ∧ IsTrimmed (trim text) := by
  have stops (text : List Char) : ∀ c ∈ (text.dropWhile isBlank).head?, isBlank c = false := by
    intro c first
    have stopped := List.head?_dropWhile_not isBlank text
    rw [first] at stopped
    simpa using stopped
  have kept : trimStart text = trim text ++ ((trimStart text).reverse.takeWhile isBlank).reverse := by
    rw [trim, trimEnd, ← List.reverse_append, List.takeWhile_append_dropWhile, List.reverse_reverse]
  refine ⟨text.takeWhile isBlank, ((trimStart text).reverse.takeWhile isBlank).reverse,
    fun c => List.mem_takeWhile_imp, ?_, ?_, ?_, ?_⟩
  · exact fun c member => List.mem_takeWhile_imp (List.mem_reverse.mp member)
  · rw [List.append_assoc, ← kept, trimStart, List.takeWhile_append_dropWhile]
  · -- The first character left is the first one of the text without its front.
    intro c first
    refine stops text c ?_
    have begins := congrArg List.head? kept
    rw [List.head?_append, first] at begins
    exact begins
  · intro c last
    rw [trim, trimEnd, List.getLast?_reverse] at last
    exact stops _ c last

theorem trim_eq_nil_iff (text : List Char) : trim text = [] ↔ ∀ c ∈ text, isBlank c = true := by
  refine ⟨fun nothing => ?_, trim_blank⟩
  obtain ⟨lead, trail, opens, closes, whole, -⟩ := trim_parts text
  rw [nothing, List.append_nil] at whole
  intro c member
  rw [whole, List.mem_append] at member
  exact member.elim (opens c) (closes c)

theorem trim_subset (text : List Char) : trim text ⊆ text := by
  obtain ⟨lead, trail, -, -, whole, -⟩ := trim_parts text
  intro c member
  rw [whole]
  simp [member]

end Trimming

section Cutting

theorem stretches_split (text : List Char) : stretches text = text.splitOn ',' := by
  induction text with
  | nil => rfl
  | cons c rest ih =>
    rw [List.splitOn_cons_eq_if_modifyHead, ← ih]
    by_cases comma : c = ',' <;> simp [stretches, comma]

theorem items_append (first second : List Char) :
    items (first ++ ',' :: second) = items first ++ items second := by
  simp only [items, stretches_split, List.splitOn_append_cons_self, List.map_append,
    List.filter_append]

theorem items_whole (part : List Char) (whole : ',' ∉ part) :
    items part = if trim part = [] then [] else [trim part] := by
  rw [items, stretches_split, List.splitOn_eq_singleton whole]
  by_cases blank : trim part = [] <;> simp [blank]

theorem comma_induction {motive : List Char → Prop} (one : ∀ part, ',' ∉ part → motive part)
    (more : ∀ part rest, ',' ∉ part → motive rest → motive (part ++ ',' :: rest))
    (text : List Char) : motive text := by
  by_cases present : ',' ∈ text
  · obtain ⟨part, rest, cut, whole⟩ := List.eq_append_cons_of_mem present
    have shorter : rest.length < text.length := by
      rw [cut, List.length_append, List.length_cons]
      omega
    rw [cut]
    exact more part rest whole (comma_induction one more rest)
  · exact one text present
termination_by text.length

theorem whole_items (part : List Char) (whole : ',' ∉ part) : ∀ item ∈ items part, IsItem item := by
  intro item member
  rw [items_whole part whole] at member
  by_cases blank : trim part = []
  · simp [blank] at member
  · obtain rfl : item = trim part := by simpa [blank] using member
    obtain ⟨_, _, -, -, -, trimmed⟩ := trim_parts part
    exact ⟨trimmed, blank, fun comma => whole (trim_subset part comma)⟩

theorem items_are_items (text : List Char) : ∀ item ∈ items text, IsItem item := by
  induction text using comma_induction with
  | one part whole => exact whole_items part whole
  | more part rest whole ih =>
    intro item member
    rw [items_append, List.mem_append] at member
    exact member.elim (whole_items part whole item) (ih item)

end Cutting

section Spelling
variable {item before after : List Char}

theorem filler_append {first second : List Char} (opens : IsFiller first)
    (closes : IsFiller second) : IsFiller (first ++ second) := fun c member =>
  (List.mem_append.mp member).elim (opens c) (closes c)

theorem filler_parts {part rest : List Char} (fills : IsFiller (part ++ ',' :: rest)) :
    IsFiller part ∧ IsFiller rest :=
  ⟨fun c member => fills c (by simp [member]), fun c member => fills c (by simp [member])⟩

theorem filler_blank {part : List Char} (fills : IsFiller part) (whole : ',' ∉ part) :
    ∀ c ∈ part, isBlank c = true := fun c member =>
  (fills c member).resolve_left fun comma => whole (comma ▸ member)

theorem blank_filler {part : List Char} (blank : ∀ c ∈ part, isBlank c = true) : IsFiller part :=
  fun c member => .inr (blank c member)

theorem items_filler (text : List Char) (fills : IsFiller text) : items text = [] := by
  induction text using comma_induction with
  | one part whole =>
    rw [items_whole part whole, if_pos (trim_blank (filler_blank fills whole))]
  | more part rest whole ih =>
    obtain ⟨opens, closes⟩ := filler_parts fills
    have blank := trim_blank (filler_blank opens whole)
    rw [items_append, items_whole part whole, if_pos blank, ih closes, List.append_nil]

theorem items_blank_around (isItem : IsItem item) (opens : ∀ c ∈ before, isBlank c = true)
    (closes : ∀ c ∈ after, isBlank c = true) : items (before ++ item ++ after) = [item] := by
  have comma : isBlank ',' = false := by decide
  have whole : ',' ∉ before ++ item ++ after := by
    simp only [List.mem_append, not_or]
    exact ⟨⟨fun inside => by simp [opens ',' inside] at comma, isItem.whole⟩,
      fun inside => by simp [closes ',' inside] at comma⟩
  rw [items_whole _ whole, trim_between opens closes isItem.toIsTrimmed, if_neg isItem.filled]

theorem items_surrounded (isItem : IsItem item) (opens : IsFiller before) (closes : IsFiller after) :
    items (before ++ item ++ after) = [item] := by
  -- First what follows is cut at its commas, then what stands before.
  have followed (before : List Char) (blank : ∀ c ∈ before, isBlank c = true) :
      items (before ++ item ++ after) = [item] := by
    induction after using comma_induction with
    | one part whole => exact items_blank_around isItem blank (filler_blank closes whole)
    | more part rest whole ih =>
      obtain ⟨first, others⟩ := filler_parts closes
      rw [← List.append_assoc, items_append,
        items_blank_around isItem blank (filler_blank first whole), items_filler rest others]
      rfl
  induction before using comma_induction with
  | one part whole => exact followed part (filler_blank opens whole)
  | more part rest whole ih =>
    obtain ⟨first, others⟩ := filler_parts opens
    rw [List.append_assoc, List.append_assoc, List.cons_append, items_append,
      items_filler part first, ← List.append_assoc, ih others]
    rfl

theorem items_spelled {list : List (List Char)} {text : List Char} (spells : Spells list text)
    (areItems : ∀ item ∈ list, IsItem item) : items text = list := by
  induction spells with
  | nothing filler fills => exact items_filler filler fills
  | last before item after opens closes =>
    exact items_surrounded (areItems item List.mem_cons_self) opens closes
  | next before item after opens closes rest text _ ih =>
    rw [items_append, items_surrounded (areItems item List.mem_cons_self) opens closes,
      ih fun other member => areItems other (List.mem_cons_of_mem item member)]
    rfl

theorem spells_behind {list : List (List Char)} {filler text : List Char} (fills : IsFiller filler)
    (spells : Spells list text) : Spells list (filler ++ text) := by
  cases spells with
  | nothing _ others => exact .nothing _ (filler_append fills others)
  | last before item after opens closes =>
    rw [← List.append_assoc, ← List.append_assoc]
    exact .last _ item after (filler_append fills opens) closes
  | next before item after opens closes rest text others =>
    simp only [← List.append_assoc]
    exact .next _ item after (filler_append fills opens) closes rest text others

theorem spells_append {first second : List (List Char)} {left right : List Char}
    (spells : Spells first left) (others : Spells second right) :
    Spells (first ++ second) (left ++ ',' :: right) := by
  induction spells with
  | nothing filler fills =>
    have comma : IsFiller [','] := fun c member => .inl (List.mem_singleton.mp member)
    rw [List.append_cons]
    exact spells_behind (filler_append fills comma) others
  | last before item after opens closes =>
    exact .next before item after opens closes second right others
  | next before item after opens closes rest text _ ih =>
    rw [List.append_assoc]
    exact .next before item after opens closes _ _ ih

theorem spells_whole (part : List Char) (whole : ',' ∉ part) : Spells (items part) part := by
  obtain ⟨lead, trail, opens, closes, parts, -⟩ := trim_parts part
  rw [items_whole part whole]
  split
  · rename_i nothing
    exact .nothing part (blank_filler ((trim_eq_nil_iff part).mp nothing))
  · have spelled := Spells.last lead (trim part) trail (blank_filler opens) (blank_filler closes)
    rwa [← parts] at spelled

theorem spells_items (text : List Char) : Spells (items text) text := by
  induction text using comma_induction with
  | one part whole => exact spells_whole part whole
  | more part rest whole ih =>
    rw [items_append]
    exact spells_append (spells_whole part whole) ih

theorem spells_iff {list : List (List Char)} (areItems : ∀ item ∈ list, IsItem item)
    (text : List Char) : Spells list text ↔ items text = list :=
  ⟨fun spells => items_spelled spells areItems, fun same => same ▸ spells_items text⟩

theorem spells_joined (list : List (List Char)) : Spells list ([','].intercalate list) := by
  have empty : IsFiller [] := fun c member => by cases member
  induction list with
  | nil => exact .nothing [] empty
  | cons item rest ih =>
    cases rest with
    | nil => simpa using Spells.last [] item [] empty empty
    | cons other rest => simpa using Spells.next [] item [] empty empty _ _ ih

end Spelling

/-- Cutting a text at its commas takes the joining of items back. What it gives are items; a comma between
two texts keeps their items apart; and of items it gives just those that the text spells, as the joined
text does. -/
theorem split_items_inverts_joining :
    (∀ text, ∀ item ∈ splitItems text, IsItem item.toList) ∧
    (∀ first second, splitItems (first ++ "," ++ second) = splitItems first ++ splitItems second) ∧
    (∀ list : List String, (∀ item ∈ list, IsItem item.toList) →
      splitItems (",".intercalate list) = list ∧
        ∀ text, splitItems text = list ↔ Spells (list.map String.toList) text.toList) ∧
    ∀ text, splitItems (",".intercalate (splitItems text)) = splitItems text := by
  have itemsOf (text : String) : (splitItems text).map String.toList = items text.toList := by
    simp [splitItems, Function.comp_def]
  have areItems (text : String) : ∀ item ∈ splitItems text, IsItem item.toList := by
    intro item member
    apply items_are_items text.toList
    rw [← itemsOf]
    exact List.mem_map_of_mem member
  have spelled (list : List String) (good : ∀ item ∈ list, IsItem item.toList) (text : String) :
      splitItems text = list ↔ Spells (list.map String.toList) text.toList := by
    have same : (splitItems text).map String.toList = list.map String.toList ↔
        splitItems text = list := List.map_inj_right fun _ _ => String.toList_inj.mp
    rw [spells_iff (by simpa using good), ← itemsOf, same]
  have joined (list : List String) (good : ∀ item ∈ list, IsItem item.toList) :
      splitItems (",".intercalate list) = list := by
    rw [spelled list good, String.toList_intercalate]
    exact spells_joined _
  refine ⟨areItems, ?_, fun list good => ⟨joined list good, spelled list good⟩,
    fun text => joined _ (areItems text)⟩
  intro first second
  have comma : (first ++ "," ++ second).toList = first.toList ++ ',' :: second.toList := by simp
  simp only [splitItems, comma, items_append, List.map_append]

theorem spaced_tags_spelled :
    let tags := ["vip", "ΟΔΟΣ 5"]
    let text := " ,vip\u00a0,,\u3000ΟΔΟΣ 5 , "
    (∀ tag ∈ tags, IsItem tag.toList) ∧ Spells (tags.map String.toList) text.toList ∧
      splitItems text = tags ∧ splitItems (",".intercalate tags) = tags := by
  intro tags text
  have areItems : ∀ tag ∈ tags, IsItem tag.toList := by decide +kernel
  have parts : text.toList = [' ', ','] ++ "vip".toList ++ ['\u00a0'] ++ ',' ::
      ([',', '\u3000'] ++ "ΟΔΟΣ 5".toList ++ [' ', ',', ' ']) := by decide +kernel
  have spells : Spells (tags.map String.toList) text.toList := by
    rw [parts]
    refine .next _ _ _ (by decide) (by decide) _ _ ?_
    exact .last _ _ _ (by decide) (by decide)
  obtain ⟨-, -, inverts, -⟩ := split_items_inverts_joining
  obtain ⟨joined, spelled⟩ := inverts tags areItems
  exact ⟨areItems, spells, (spelled text).mpr spells, joined⟩

end TicketRouting.Text
