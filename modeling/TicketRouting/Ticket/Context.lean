import TicketRouting.Ticket.Basic
/-!
What is known of a ticket when it is routed. Its tags are a set, held in ascending order so that
equal sets are equal lists.
-/
namespace TicketRouting

structure TagSet where
  tags : List String
  ascending : tags.Pairwise (· < ·) := by simp
deriving DecidableEq

namespace TagSet

def empty : TagSet := ⟨[], List.Pairwise.nil⟩

def insertIn (tag : String) : List String → List String
  | [] => [tag]
  | first :: rest =>
    if tag < first then tag :: first :: rest
    else if tag = first then first :: rest
    else first :: insertIn tag rest

theorem mem_insert_in (tag : String) (tags : List String) (t : String) :
    t ∈ insertIn tag tags ↔ t = tag ∨ t ∈ tags := by
  induction tags with
  | nil => simp [insertIn]
  | cons first rest ih =>
    unfold insertIn
    split
    · simp
    · split
      · rename_i same
        subst same
        simp
      · simp [ih, or_left_comm]

theorem insert_in_ascending (tag : String) (tags : List String)
    (ascending : tags.Pairwise (· < ·)) : (insertIn tag tags).Pairwise (· < ·) := by
  induction tags with
  | nil => simp [insertIn]
  | cons first rest ih =>
    rw [List.pairwise_cons] at ascending
    unfold insertIn
    split
    · rename_i before
      rw [List.pairwise_cons, List.pairwise_cons]
      refine ⟨?_, ascending⟩
      intro t member
      rcases List.mem_cons.mp member with rfl | later
      · exact before
      · exact String.lt_trans before (ascending.1 t later)
    · split
      · exact List.pairwise_cons.mpr ascending
      · rename_i notBefore other
        rw [List.pairwise_cons]
        refine ⟨?_, ih ascending.2⟩
        intro t member
        rcases (mem_insert_in tag rest t).mp member with rfl | later
        · rcases Std.lt_trichotomy first t with before | same | after
          · exact before
          · exact absurd same.symm other
          · exact absurd after notBefore
        · exact ascending.1 t later

def insert (tag : String) (set : TagSet) : TagSet :=
  ⟨insertIn tag set.tags, insert_in_ascending tag set.tags set.ascending⟩

def insertAll (tags : List String) (set : TagSet) : TagSet :=
  tags.foldl (fun set tag => set.insert tag) set

def ofList (tags : List String) : TagSet := insertAll tags empty

theorem mem_insert (tag : String) (set : TagSet) (t : String) :
    t ∈ (set.insert tag).tags ↔ t = tag ∨ t ∈ set.tags := mem_insert_in tag set.tags t

end TagSet

structure RoutingContext where
  companyId : CompanyId
  senderDomain : Option String := none
  subject : String := ""
  body : String := ""
  issueType : Option String := none
  system : Option String := none
  requesterEmail : Option String := none
  tags : TagSet := TagSet.empty
deriving DecidableEq

namespace RoutingContext

def withSenderDomain (domain : String) (context : RoutingContext) : RoutingContext :=
  { context with senderDomain := some domain }

def withSubject (subject : String) (context : RoutingContext) : RoutingContext :=
  { context with subject := subject }

def withBody (body : String) (context : RoutingContext) : RoutingContext :=
  { context with body := body }

def withIssueType (issueType : String) (context : RoutingContext) : RoutingContext :=
  { context with issueType := some issueType }

def withSystem (system : String) (context : RoutingContext) : RoutingContext :=
  { context with system := some system }

def withRequesterEmail (email : String) (context : RoutingContext) : RoutingContext :=
  { context with requesterEmail := some email }

def withTags (tags : List String) (context : RoutingContext) : RoutingContext :=
  { context with tags := context.tags.insertAll tags }

end RoutingContext

end TicketRouting
