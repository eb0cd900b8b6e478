import Mathlib.Data.List.Nodup
import TicketRouting.Json.Codec
/-!
Records read back from their JSON objects. A form restores a record from its written fields if every
field is read back and no two fields have one name; this is shown field by field, as forms are made.
-/
namespace TicketRouting.Json

/-- Every value is read back, and none is written as null. -/
def Codec.Faithful {α : Type} (codec : Codec α) : Prop :=
  ∀ value, codec.Keeps value ∧ codec.write value ≠ .null

section Codecs
variable {α β : Type} {codec : Codec α}

theorem map_keeps {build : α → β} {content : β → α} {value : β} (kept : codec.Keeps (content value))
    (same : build (content value) = value) : (codec.map build content).Keeps value := by
  unfold Codec.Keeps at kept ⊢
  simp only [Codec.map, Codec.via, kept, bind, Except.bind, same]

@[simp] theorem faithful_keeps (faithful : codec.Faithful) (value : α) : codec.Keeps value :=
  (faithful value).1

@[simp] theorem text_faithful : Codec.text.Faithful := fun _ => ⟨rfl, nofun⟩

theorem map_faithful (faithful : codec.Faithful) {build : α → β} {content : β → α}
    (same : ∀ value, build (content value) = value) : (codec.map build content).Faithful :=
  fun value => ⟨map_keeps (faithful (content value)).1 (same value), (faithful (content value)).2⟩

theorem one_of_faithful {all : List α} {name : α → String} (known : ∀ value, value ∈ all)
    (apart : ∀ first ∈ all, ∀ second ∈ all, name first = name second → first = second) :
    (Codec.oneOf all name).Faithful := by
  intro value
  have found : all.find? (fun other => name other == name value) = some value := by
    obtain ⟨other, found⟩ := Option.isSome_iff_exists.mp
      (List.find?_isSome (p := fun other => name other == name value).mpr
        ⟨value, known value, beq_self_eq_true _⟩)
    have alike := List.find?_some (p := fun other => name other == name value) found
    rw [found, apart other (List.mem_of_find?_eq_some found) value (known value) (eq_of_beq alike)]
  exact ⟨by simp only [Codec.Keeps, Codec.oneOf, Codec.readName, found], nofun⟩

@[simp] theorem flag_faithful : Codec.flag.Faithful := fun _ => ⟨rfl, nofun⟩

theorem integer_keeps {least greatest value : Int} (expected : String) (lower : least ≤ value)
    (upper : value ≤ greatest) : (Codec.integer least greatest expected).Keeps value :=
  if_pos ⟨lower, upper⟩

@[simp] theorem int64_faithful : Codec.int64.Faithful := by
  intro number
  have within := integer_keeps "i64" (Int64.minValue_le_toInt number) (Int64.toInt_le number)
  exact ⟨map_keeps within (Int64.ofInt_toInt number), nofun⟩

@[simp] theorem uint32_faithful : Codec.uint32.Faithful := by
  intro number
  have upper : (number.toNat : Int) ≤ UInt32.size - 1 := by
    have bound := number.toNat_lt
    have size : UInt32.size = 4294967296 := rfl
    omega
  exact ⟨map_keeps (integer_keeps "u32" (Int.natCast_nonneg _) upper) (by simp), nofun⟩

@[simp] theorem uint64_faithful (expected : String) : (Codec.uint64 expected).Faithful := by
  intro number
  have upper : (number.toNat : Int) ≤ UInt64.size - 1 := by
    have bound := number.toNat_lt
    have size : UInt64.size = 18446744073709551616 := rfl
    omega
  exact ⟨map_keeps (integer_keeps expected (Int.natCast_nonneg _) upper) (by simp), nofun⟩

theorem optional_keeps_of {value : Option α}
    (kept : ∀ content ∈ value, codec.Keeps content ∧ codec.write content ≠ .null) :
    codec.optional.Keeps value := by
  cases value with
  | none => rfl
  | some content =>
    obtain ⟨kept, shown⟩ := kept content rfl
    unfold Codec.Keeps at kept ⊢
    simp only [Codec.optional, Value.ofOption, kept]
    rfl

@[simp] theorem optional_keeps (faithful : codec.Faithful) (value : Option α) :
    codec.optional.Keeps value := optional_keeps_of fun content _ => faithful content

@[simp] theorem list_faithful (faithful : codec.Faithful) : codec.list.Faithful := by
  intro values
  refine ⟨?_, nofun⟩
  unfold Codec.Keeps
  simp only [Codec.list]
  induction values with
  | nil => rfl
  | cons value rest ih =>
    have head : codec.read (codec.write value) = .ok value := (faithful value).1
    rw [List.map_cons, List.mapM_cons, head, ih]
    rfl

end Codecs

section Fields
variable {α : Type} (name : String) (codec : Codec α)

@[simp] theorem required_codec : (Field.required name codec).codec = codec := rfl

@[simp] theorem optional_codec : (Field.optional name codec).codec = codec.optional := rfl

@[simp] theorem defaulted_codec (value : α) :
    (Field.defaulted name codec value).codec = codec := rfl

theorem lookup_listed {fields : Fields} {name : String} {value : Value}
    (distinct : (fields.map (·.1)).Nodup) (listed : (name, value) ∈ fields) :
    fields.lookup name = some value := by
  obtain ⟨before, after, rfl⟩ := List.append_of_mem listed
  refine List.lookup_eq_some_iff.mpr ⟨before, after, rfl, ?_⟩
  intro entry member
  have apart := (List.nodup_append.mp (by simpa using distinct)).2.2
  have differ := apart entry.1 (List.mem_map_of_mem member) name (by simp)
  simpa using Ne.symm differ

theorem lookup_behind {fields : Fields} {name : String} (value : Value) (others : Fields)
    (fresh : name ∉ fields.map (·.1)) :
    (fields ++ (name, value) :: others).lookup name = some value := by
  refine List.lookup_eq_some_iff.mpr ⟨fields, others, rfl, ?_⟩
  intro entry member
  have differ : name ≠ entry.1 := fun same => fresh (same ▸ List.mem_map_of_mem member)
  simpa using differ

end Fields

section Forms
variable {σ α β : Type}

theorem build_field_iff (form : Form σ (α → β)) (content : σ → α) (next : Field α) (fields : Fields)
    (value : β) :
    (form.field content next).build fields = .ok value ↔
      ∃ partly part, form.build fields = .ok partly ∧ next.readIn fields = .ok part ∧
        partly part = value := by
  simp only [Form.field, bind, Except.bind]
  cases form.build fields with
  | error fault => simp
  | ok partly => cases next.readIn fields <;> simp [pure, Except.pure]

theorem read_built (form : Form σ σ) (record : String) (json : Value) (value : σ)
    (reads : (form.codec record).read json = .ok value) :
    ∃ fields, form.build fields = .ok value := by
  simp only [Form.codec, bind, Except.bind] at reads
  cases checked : checkedFields record form.rules json with
  | error fault => simp [checked] at reads
  | ok fields => exact ⟨fields, by simpa [checked] using reads⟩

/-- The form puts a value together from the fields that it writes of a record, and finds no fault with
them. -/
structure Form.Restores (form : Form σ α) (record : σ) (value : α) : Prop where
  named : (form.entries record).map (·.1) = form.rules.map (·.name)
  distinct : ((form.entries record).map (·.1)).Nodup
  faultless : ∀ rule ∈ form.rules, ∃ written, (rule.name, written) ∈ form.entries record ∧
    rule.fault? written = none
  built : ∀ others, form.build (form.entries record ++ others) = .ok value

@[simp] theorem start_restores (record : σ) (value : α) : (Form.start σ value).Restores record value :=
  ⟨rfl, List.nodup_nil, fun _ member => (List.not_mem_nil member).elim, fun _ => rfl⟩

theorem field_restores {form : Form σ (α → β)} {record : σ} {partly : α → β}
    (restored : form.Restores record partly) (content : σ → α) (next : Field α)
    (kept : next.codec.Keeps (content record))
    (fresh : next.name ∉ form.rules.map (·.name)) :
    (form.field content next).Restores record (partly (content record)) where
  named := by
    rw [Form.field, List.map_append, List.map_append, restored.named]
    rfl
  distinct := by
    rw [← restored.named] at fresh
    rw [Form.field, List.map_append, List.nodup_append]
    refine ⟨restored.distinct, by simp, ?_⟩
    intro name member other listed same
    rw [List.map_singleton, List.mem_singleton] at listed
    subst same listed
    exact fresh member
  faultless rule member := by
    obtain earlier | last := List.mem_append.mp member
    · obtain ⟨written, listed, fine⟩ := restored.faultless rule earlier
      exact ⟨written, List.mem_append_left _ listed, fine⟩
    · obtain rfl := List.mem_singleton.mp last
      refine ⟨next.codec.write (content record), List.mem_append_right _ (List.mem_singleton_self _),
        ?_⟩
      unfold Codec.Keeps at kept
      simp only [Field.rule, kept]
  built others := by
    rw [← restored.named] at fresh
    have found := lookup_behind (next.codec.write (content record)) others fresh
    refine (build_field_iff form content next _ _).mpr ⟨partly, content record, ?_, ?_, rfl⟩
    · simpa [Form.field] using
        restored.built ((next.name, next.codec.write (content record)) :: others)
    · unfold Codec.Keeps at kept
      simp [Form.field, Field.readIn, found, kept]

theorem form_keeps {form : Form σ σ} {value : σ} (restored : form.Restores value value)
    (record : String) : (form.codec record).Keeps value := by
  have listed : ∀ rule ∈ form.rules, ∃ written,
      (form.entries value).lookup rule.name = some written ∧ rule.fault? written = none := by
    intro rule member
    obtain ⟨written, entry, fine⟩ := restored.faultless rule member
    exact ⟨written, lookup_listed restored.distinct entry, fine⟩
  have faultless : objectFault? form.rules (form.entries value) = none := by
    have noneBad : (form.rules.mergeSort fun left right => decide (left.name ≤ right.name)).findSome?
        (fun rule => ((form.entries value).lookup rule.name).bind rule.fault?) = none := by
      rw [List.findSome?_eq_none_iff]
      intro rule member
      obtain ⟨written, found, fine⟩ := listed rule (List.mem_mergeSort.mp member)
      rw [found, Option.bind_some, fine]
    have noneMissing : form.rules.find? (fun rule =>
        rule.isRequired && ((form.entries value).lookup rule.name).isNone) = none := by
      rw [List.find?_eq_none]
      intro rule member
      obtain ⟨written, found, -⟩ := listed rule member
      simp [found]
    simp only [objectFault?, noneBad, noneMissing, Option.map_none]
  have built := restored.built []
  rw [List.append_nil] at built
  simp only [Codec.Keeps, Form.codec, checkedFields, faultless, bind, Except.bind, built]

theorem form_faithful {form : Form σ σ} (restored : ∀ value, form.Restores value value)
    (record : String) : (form.codec record).Faithful :=
  fun value => ⟨form_keeps (restored value) record, nofun⟩

end Forms

end TicketRouting.Json
