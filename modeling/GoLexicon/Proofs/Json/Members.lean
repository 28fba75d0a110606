import GoLexicon.Json.Basic
import GoLexicon.Proofs.Lookup
import Mathlib.Data.List.Induction
/-!
# The members of an object

A document may give one name to several members of an object. The last one of them counts
(`Json.member?_foldl_withMember`). Where the names are all different, the object has the members in
the order of the document (`Json.ofMembers_of_nodup`).
-/

namespace GoLexicon.Json

variable {name other : Text} {v : Json} {members : List (Text × Json)}

/-- A member of a new name comes last. -/
theorem withMember_of_not_mem (h : name ∉ members.map (·.1)) (v : Json) :
    withMember name v members = members ++ [(name, v)] := by
  induction members with
  | nil => rfl
  | cons m members ih =>
    rw [List.map_cons] at h
    rw [withMember, if_neg (List.ne_of_not_mem_cons h).symm, ih (List.not_mem_of_not_mem_cons h),
      List.cons_append]

theorem ofMembers_of_nodup (distinct : (members.map (·.1)).Nodup) :
    ofMembers members = .object members := by
  rw [ofMembers]
  exact congrArg _ (List.foldl_eq_append (fun m _ new => withMember_of_not_mem new m.2) distinct)

theorem member?_withMember : member? (withMember name v members) other =
    if other = name then some v else member? members other := by
  induction members with
  | nil =>
    rw [withMember, member?, List.lookup_cons]
    by_cases h : other = name
    · simp [h]
    · simp [h, beq_eq_false_iff_ne.2 h, member?]
  | cons m members ih =>
    obtain ⟨first, old⟩ := m
    rw [withMember]
    simp only [member?] at ih ⊢
    split
    · next h =>
      subst h
      simp only [List.lookup_cons]
      by_cases h : other = first <;> simp [h, beq_eq_false_iff_ne.2]
    · next h =>
      simp only [List.lookup_cons, ih]
      by_cases h' : other = first
      · subst h'
        simp [h]
      · simp [beq_eq_false_iff_ne.2 h']

/-- The member of a name that comes last in a document. -/
def lastMember? (members : List (Text × Json)) (name : Text) : Option Json :=
  member? members.reverse name

/-- The members of an object are found as the last ones of the document. -/
theorem member?_foldl_withMember (members : List (Text × Json)) (other : Text) :
    member? (members.foldl (fun done (name, value) => withMember name value done) []) other =
      lastMember? members other := by
  induction members using List.reverseRecOn with
  | nil => rfl
  | append_singleton members m ih =>
    rw [List.foldl_append, List.foldl_cons, List.foldl_nil, member?_withMember, ih, lastMember?,
      lastMember?, List.reverse_concat, member?, member?, List.lookup_cons]
    by_cases h : other = m.1
    · simp [h]
    · simp [h, beq_eq_false_iff_ne.2 h]

end GoLexicon.Json
