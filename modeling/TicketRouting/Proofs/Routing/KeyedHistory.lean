import TicketRouting.Proofs.Routing.MemoryLookup
/-!
Entries that are put under keys and dropped again. They stand in the order in which their keys were newly
put there; a later version takes the place of the one before it.
-/
namespace TicketRouting

section Histories
variable {α κ : Type} (key : α → κ)

inductive KeyedChange (α κ : Type) where
  | put (entry : α)
  | drop (id : κ)

/-- The latest version of an entry, and when its key was newly put there. -/
structure HeldEntry (α : Type) where
  entry : α
  since : Nat

def IsHeldBefore (held : κ → Option (HeldEntry α)) (first second : α) : Prop :=
  ∃ earlier later, held (key first) = some earlier ∧ held (key second) = some later ∧
    earlier.since < later.since

/-- The entries are those that the history tells, in its order. -/
structure FollowsHistory (held : κ → Option (HeldEntry α)) (time : Nat) (entries : List α) :
    Prop where
  distinct : (entries.map key).Nodup
  known : ∀ entry, entry ∈ entries ↔ (held (key entry)).map (·.entry) = some entry
  keyed : ∀ id standing, held id = some standing → key standing.entry = id
  past : ∀ id standing, held id = some standing → standing.since < time
  ordered : entries.Pairwise (IsHeldBefore key held)

variable {key} {held : κ → Option (HeldEntry α)} {time : Nat} {entries : List α}

theorem held_none (follows : FollowsHistory key held time entries) {id : κ}
    (absent : id ∉ entries.map key) : held id = none := by
  cases standing : held id with
  | none => rfl
  | some found =>
    have same := follows.keyed id found standing
    have member : found.entry ∈ entries :=
      (follows.known found.entry).mpr (by rw [same, standing]; rfl)
    exact absurd (same ▸ List.mem_map_of_mem member) absent

theorem held_some (follows : FollowsHistory key held time entries) {entry : α}
    (member : entry ∈ entries) : ∃ since, held (key entry) = some ⟨entry, since⟩ := by
  have known := (follows.known entry).mp member
  cases standing : held (key entry) with
  | none => simp [standing] at known
  | some found =>
    obtain rfl : found.entry = entry := by simpa [standing] using known
    exact ⟨found.since, rfl⟩

theorem held_iff (follows : FollowsHistory key held time entries) (id : κ) :
    (held id).isSome = true ↔ id ∈ entries.map key := by
  constructor
  · intro some
    by_contra absent
    simp [held_none follows absent] at some
  · intro member
    obtain ⟨entry, inEntries, rfl⟩ := List.mem_map.mp member
    obtain ⟨since, standing⟩ := held_some follows inEntries
    rw [standing]
    rfl

theorem follows_nothing : FollowsHistory key (fun _ => none) 0 [] :=
  ⟨List.nodup_nil, by simp, by simp, by simp, List.Pairwise.nil⟩

end Histories

section Changes
variable {α κ : Type} [DecidableEq κ] (key : α → κ)

namespace KeyedChange

def next? (id : κ) (time : Nat) (held : Option (HeldEntry α)) :
    KeyedChange α κ → Option (HeldEntry α)
  | put entry => if key entry = id then some ⟨entry, (held.map (·.since)).getD time⟩ else held
  | drop other => if other = id then none else held

def apply (entries : List α) : KeyedChange α κ → List α
  | put entry => putUnder key entry entries
  | drop id => (dropUnder key id entries).2

end KeyedChange

def heldAfter? (id : κ) : List (KeyedChange α κ) → Nat → Option (HeldEntry α) →
    Option (HeldEntry α)
  | [], _, held => held
  | change :: rest, time, held => heldAfter? id rest (time + 1) (change.next? key id time held)

variable {key} {held : κ → Option (HeldEntry α)} {time : Nat} {entries : List α}

theorem put_under_known (distinct : (entries.map key).Nodup) {entry : α}
    (known : key entry ∈ entries.map key) :
    putUnder key entry entries =
      entries.map fun other => if key other = key entry then entry else other := by
  induction entries with
  | nil => cases known
  | cons other rest ih =>
    obtain ⟨fresh, distinct⟩ := List.nodup_cons.mp distinct
    rw [putUnder, List.map_cons]
    by_cases own : key other = key entry
    · have others : rest.map (fun other => if key other = key entry then entry else other) =
          rest := by
        refine (List.map_congr_left fun second member => if_neg fun same => ?_).trans rest.map_id
        exact fresh (own.trans same.symm ▸ List.mem_map_of_mem member)
      rw [if_pos (beq_iff_eq.mpr own), if_pos own, others]
    · have later : key entry ∈ rest.map key :=
        (List.mem_cons.mp known).resolve_left fun same => own same.symm
      rw [if_neg (by simpa using own), if_neg own, ih distinct later]

theorem drop_under_found (id : κ) : (dropUnder key id entries).1 = true ↔ id ∈ entries.map key := by
  have kept : (dropUnder key id entries).1 = false ↔ id ∉ entries.map key := by
    simp [dropUnder, List.length_filter_eq_length_iff]
  rw [← Bool.not_eq_false, kept, not_not]

theorem put_keyed (follows : FollowsHistory key held time entries) (entry : α) :
    ∀ id standing, (KeyedChange.put entry).next? key id time (held id) = some standing →
      key standing.entry = id := by
  intro id standing found
  simp only [KeyedChange.next?] at found
  split at found
  · rename_i own
    obtain rfl := Option.some.inj found
    exact own
  · exact follows.keyed id standing found

theorem put_past (follows : FollowsHistory key held time entries) (entry : α) :
    ∀ id standing, (KeyedChange.put entry).next? key id time (held id) = some standing →
      standing.since < time + 1 := by
  intro id standing found
  simp only [KeyedChange.next?] at found
  split at found
  · obtain rfl := Option.some.inj found
    cases before : held id with
    | none => exact Nat.lt_succ_self time
    | some earlier => exact Nat.lt_succ_of_lt (follows.past id earlier before)
  · exact Nat.lt_succ_of_lt (follows.past id standing found)

theorem put_since (entry : α) {id : κ} {standing : HeldEntry α} (found : held id = some standing) :
    ∃ later, (KeyedChange.put entry).next? key id time (held id) = some later ∧
      later.since = standing.since := by
  simp only [KeyedChange.next?, found]
  split <;> exact ⟨_, rfl, rfl⟩

theorem replaced_key (key : α → κ) (entry other : α) :
    key (if key other = key entry then entry else other) = key other := by
  split
  · rename_i same
    exact same.symm
  · rfl

theorem follows_replaced (follows : FollowsHistory key held time entries) {entry : α}
    (known : key entry ∈ entries.map key) :
    FollowsHistory key (fun id => (KeyedChange.put entry).next? key id time (held id)) (time + 1)
      (putUnder key entry entries) := by
  rw [put_under_known follows.distinct known]
  constructor
  case distinct =>
    simpa only [List.map_map, Function.comp_def, replaced_key] using follows.distinct
  case known =>
    intro other
    rw [List.mem_map]
    by_cases own : key entry = key other
    · rw [KeyedChange.next?, if_pos own, Option.map_some, Option.some.injEq]
      constructor
      · rintro ⟨before, -, rfl⟩
        rw [replaced_key key] at own
        rw [if_pos own.symm]
      · intro same
        obtain ⟨old, inEntries, oldKey⟩ := List.mem_map.mp known
        exact ⟨old, inEntries, (if_pos oldKey).trans same⟩
    · simp only [KeyedChange.next?, own, ↓reduceIte, ← follows.known]
      constructor
      · rintro ⟨before, member, rfl⟩
        rw [replaced_key key] at own
        rwa [if_neg (Ne.symm own)]
      · exact fun member => ⟨other, member, if_neg (Ne.symm own)⟩
  case keyed => exact put_keyed follows entry
  case past => exact put_past follows entry
  case ordered =>
    rw [List.pairwise_map]
    refine follows.ordered.imp ?_
    rintro first second ⟨earlier, later, firstHeld, secondHeld, order⟩
    obtain ⟨firstNow, firstFound, firstSince⟩ := put_since entry firstHeld
    obtain ⟨secondNow, secondFound, secondSince⟩ := put_since entry secondHeld
    exact ⟨firstNow, secondNow, by rw [replaced_key key]; exact firstFound,
      by rw [replaced_key key]; exact secondFound, by rw [firstSince, secondSince]; exact order⟩

theorem follows_appended (follows : FollowsHistory key held time entries) {entry : α}
    (fresh : key entry ∉ entries.map key) :
    FollowsHistory key (fun id => (KeyedChange.put entry).next? key id time (held id)) (time + 1)
      (putUnder key entry entries) := by
  have different : ∀ other ∈ entries, key other ≠ key entry := fun other member same =>
    fresh (same ▸ List.mem_map_of_mem member)
  have absent := held_none follows fresh
  have others : ∀ id, key entry ≠ id →
      (KeyedChange.put entry).next? key id time (held id) = held id := fun id other => if_neg other
  have own : (KeyedChange.put entry).next? key (key entry) time (held (key entry)) =
      some ⟨entry, time⟩ := by
    rw [KeyedChange.next?, if_pos rfl, absent]
    rfl
  rw [put_under_fresh key entry entries different]
  constructor
  case distinct =>
    rw [List.map_append, List.map_singleton]
    refine List.nodup_append.mpr ⟨follows.distinct, List.nodup_singleton _, ?_⟩
    rintro id listed other single rfl
    exact fresh (List.mem_singleton.mp single ▸ listed)
  case known =>
    intro other
    rw [List.mem_append, List.mem_singleton]
    by_cases same : key entry = key other
    · rw [← same, own]
      have missing : other ∉ entries := fun member => different other member same.symm
      simp only [missing, false_or, Option.map_some, Option.some.injEq, eq_comm]
    · rw [others _ same, ← follows.known]
      exact or_iff_left fun new => same (new ▸ rfl)
  case keyed => exact put_keyed follows entry
  case past => exact put_past follows entry
  case ordered =>
    have stays : ∀ other ∈ entries, ∃ since, since < time ∧
        (KeyedChange.put entry).next? key (key other) time (held (key other)) =
          some ⟨other, since⟩ := by
      intro other member
      obtain ⟨since, standing⟩ := held_some follows member
      exact ⟨since, follows.past _ _ standing,
        (others _ (different other member).symm).trans standing⟩
    refine List.pairwise_append.mpr ⟨?_, List.pairwise_singleton _ _, ?_⟩
    · refine follows.ordered.imp_of_mem ?_
      rintro first second inFirst inSecond ⟨earlier, later, firstHeld, secondHeld, order⟩
      exact ⟨earlier, later, (others _ (different first inFirst).symm).trans firstHeld,
        (others _ (different second inSecond).symm).trans secondHeld, order⟩
    · intro first member second single
      obtain rfl := List.mem_singleton.mp single
      obtain ⟨since, earlier, standing⟩ := stays first member
      exact ⟨⟨first, since⟩, ⟨second, time⟩, standing, own, earlier⟩

theorem follows_dropped (follows : FollowsHistory key held time entries) (id : κ) :
    FollowsHistory key (fun other => (KeyedChange.drop id).next? key other time (held other))
      (time + 1) (dropUnder key id entries).2 := by
  have others : ∀ other, id ≠ other →
      (KeyedChange.drop id).next? key other time (held other) = held other :=
    fun other different => if_neg different
  have standing : ∀ other found,
      (KeyedChange.drop id).next? key other time (held other) = some found →
        id ≠ other ∧ held other = some found := by
    intro other found next
    simp only [KeyedChange.next?] at next
    split at next
    · cases next
    · rename_i different
      exact ⟨different, next⟩
  simp only [dropUnder]
  constructor
  case distinct => exact follows.distinct.sublist (List.filter_sublist.map key)
  case known =>
    intro entry
    rw [List.mem_filter, bne_iff_ne]
    by_cases own : id = key entry
    · simp [KeyedChange.next?, own]
    · rw [others _ own, ← follows.known]
      exact and_iff_left (Ne.symm own)
  case keyed => exact fun other found next => follows.keyed other found (standing other found next).2
  case past =>
    exact fun other found next =>
      Nat.lt_succ_of_lt (follows.past other found (standing other found next).2)
  case ordered =>
    refine (follows.ordered.sublist List.filter_sublist).imp_of_mem ?_
    rintro first second inFirst inSecond ⟨earlier, later, firstHeld, secondHeld, order⟩
    have kept : ∀ entry ∈ entries.filter fun entry => key entry != id, id ≠ key entry :=
      fun entry member same => by simp [same] at member
    exact ⟨earlier, later, (others _ (kept first inFirst)).trans firstHeld,
      (others _ (kept second inSecond)).trans secondHeld, order⟩

theorem follows_change (follows : FollowsHistory key held time entries)
    (change : KeyedChange α κ) :
    FollowsHistory key (fun id => change.next? key id time (held id)) (time + 1)
      (change.apply key entries) := by
  cases change with
  | put entry =>
    by_cases known : key entry ∈ entries.map key
    · exact follows_replaced follows known
    · exact follows_appended follows known
  | drop id => exact follows_dropped follows id

theorem follows_changes (changes : List (KeyedChange α κ))
    (follows : FollowsHistory key held time entries) :
    FollowsHistory key (fun id => heldAfter? key id changes time (held id))
      (time + changes.length) (changes.foldl (fun all change => change.apply key all) entries) := by
  induction changes generalizing held time entries with
  | nil => exact follows
  | cons change rest ih =>
    have later := ih (follows_change follows change)
    rwa [Nat.add_right_comm] at later

end Changes

end TicketRouting
