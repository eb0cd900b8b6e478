import TicketRouting.Proofs.Json.TicketForms
import TicketRouting.Store.Requests
/-!
Changes of rules as they are sent in JSON. Null stands for a field that stays, and so does a field that
is not sent. So every change can be sent but those that take something away.
-/
namespace TicketRouting
open Json

def RuleChanges.TakesAway (changes : RuleChanges) : Prop :=
  changes.description = some none ∨ changes.autoAssignAgentId = some none ∨
    changes.priorityOverride = some none ∨ changes.tagsToAdd = some none

section Parts
variable {α : Type} {name : String} {codec : Codec α}

@[simp] theorem change_codec (name : String) (codec : Codec α) :
    (Field.change name codec).codec = codec.optional := rfl

@[simp] theorem nullable_keeps (faithful : codec.Faithful) {value : Option (Option α)}
    (given : value ≠ some none) : (Field.nullableChange name codec).codec.Keeps value := by
  refine map_keeps (optional_keeps faithful value.join) ?_
  cases value with
  | none => rfl
  | some content =>
    cases content with
    | none => contradiction
    | some kept => rfl

/-- Whatever is sent for a field, or nothing, it is not read as one to be emptied. -/
theorem nullable_never_empties {fields : Fields} {value : Option (Option α)}
    (reads : (Field.nullableChange name codec).readIn fields = .ok value) : value ≠ some none := by
  rintro rfl
  simp only [Field.readIn, Field.nullableChange, Field.defaulted, Codec.map, Codec.via, bind,
    Except.bind] at reads
  cases found : fields.lookup name with
  | none => simp [found] at reads
  | some sent =>
    cases answer : codec.optional.read sent with
    | error fault => simp [found, answer] at reads
    | ok part => cases part <;> simp [found, answer] at reads

end Parts

section Changes
variable {changes : RuleChanges}

theorem sent_takes_nothing (sent : Value) (reads : RuleChanges.codec.read sent = .ok changes) :
    ¬ changes.TakesAway := by
  obtain ⟨fields, built⟩ := read_built _ _ sent changes reads
  simp only [build_field_iff] at built
  obtain ⟨_, tags, ⟨_, priority, ⟨_, agent, ⟨_, _, ⟨_, _, ⟨_, _, ⟨_, _, ⟨_, description, ⟨_, _,
    ⟨_, _, made, -, rfl⟩, -, rfl⟩, describes, rfl⟩, -, rfl⟩, -, rfl⟩, -, rfl⟩, -, rfl⟩, assigns,
    rfl⟩, overrides, rfl⟩, adds, rfl⟩ := built
  obtain rfl := Except.ok.inj made
  rintro (empty | empty | empty | empty)
  · exact nullable_never_empties describes empty
  · exact nullable_never_empties assigns empty
  · exact nullable_never_empties overrides empty
  · exact nullable_never_empties adds empty

theorem kept_changes_sent (kept : ¬ changes.TakesAway) : RuleChanges.codec.Keeps changes := by
  simp only [RuleChanges.TakesAway, not_or] at kept
  obtain ⟨describes, assigns, overrides, adds⟩ := kept
  cases changes
  refine form_keeps ?_ "UpdateRuleRequest"
  repeat' refine field_restores ?_ _ _ ?_ (by decide)
  all_goals simp [describes, assigns, overrides, adds]

end Changes

/-- The changes that some JSON value is read as are those that empty no field, and each of them is read
back from its own JSON. -/
theorem sendable_iff_keeps_fields (changes : RuleChanges) :
    ((∃ sent, RuleChanges.codec.read sent = .ok changes) ↔ ¬ changes.TakesAway) ∧
      (RuleChanges.codec.Keeps changes ↔ ¬ changes.TakesAway) := by
  have own : RuleChanges.codec.Keeps changes ↔ ¬ changes.TakesAway :=
    ⟨sent_takes_nothing _, kept_changes_sent⟩
  refine ⟨⟨?_, ?_⟩, own⟩
  · rintro ⟨sent, reads⟩
    exact sent_takes_nothing sent reads
  · intro kept
    exact ⟨_, own.mpr kept⟩

/-- That a description is to be emptied cannot be said: the null that is written for it is read as
leaving it as it is. -/
theorem emptied_description_unsendable :
    RuleChanges.codec.read (RuleChanges.codec.write { description := some none }) = .ok {} ∧
      ∀ sent, RuleChanges.codec.read sent ≠ .ok { description := some none } := by
  constructor
  · have sameForm : RuleChanges.codec.write { description := some none } =
        RuleChanges.codec.write {} := rfl
    rw [sameForm]
    exact kept_changes_sent (by simp [RuleChanges.TakesAway])
  · exact fun sent reads => sent_takes_nothing sent reads (.inl rfl)

end TicketRouting
