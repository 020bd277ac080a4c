import Mathlib.Data.List.Basic

/-!
# Dot segments

Removal of the segments `.` and `..` from the path of an absolute URL (RFC 3986,
section 5.2.4), on the list of segments after the leading slash. A dot segment at
the end leaves an empty last segment.
-/

namespace Foundation

namespace DotSegments

abbrev Segment := List Char

def dot : Segment := ['.']

def dotDot : Segment := ['.', '.']

def IsDot (segment : Segment) : Prop :=
  segment = dot ∨ segment = dotDot

instance (segment : Segment) : Decidable (IsDot segment) :=
  inferInstanceAs (Decidable (_ ∨ _))

/-- Removal, with the segments that were output so far, latest first. -/
def removeFrom : List Segment → List Segment → List Segment
  | out, [] => out.reverse
  | out, segment :: rest =>
      if segment = dot then removeFrom (if rest = [] then [] :: out else out) rest
      else if segment = dotDot then
        removeFrom (if rest = [] then [] :: out.tail else out.tail) rest
      else removeFrom (segment :: out) rest

def remove (segments : List Segment) : List Segment :=
  removeFrom [] segments

theorem removeFrom_of_no_dot {segments : List Segment} (plain : ∀ segment ∈ segments, ¬IsDot segment)
    (out : List Segment) : removeFrom out segments = out.reverse ++ segments := by
  induction segments generalizing out with
  | nil => simp [removeFrom]
  | cons segment rest ih =>
      have first := plain segment List.mem_cons_self
      have later := ih fun other otherMem => plain other (List.mem_cons_of_mem _ otherMem)
      simp only [IsDot, not_or] at first
      simp [removeFrom, first.1, first.2, later]

/-- A path without dot segments is left as it is. -/
theorem remove_of_no_dot {segments : List Segment} (plain : ∀ segment ∈ segments, ¬IsDot segment) :
    remove segments = segments := by
  rw [remove, removeFrom_of_no_dot plain]
  rfl

theorem length_removeFrom_le (out segments : List Segment) :
    (removeFrom out segments).length ≤ out.length + segments.length := by
  induction segments generalizing out with
  | nil => simp [removeFrom]
  | cons segment rest ih =>
      simp only [removeFrom, List.length_cons]
      split
      · split
        · subst rest
          simp [removeFrom]
        · have bound := ih out
          omega
      · split
        · have popped := List.length_tail (l := out)
          split
          · subst rest
            simp [removeFrom]
          · have bound := ih out.tail
            omega
        · have bound := ih (segment :: out)
          rw [List.length_cons] at bound
          omega

theorem length_remove_le (segments : List Segment) :
    (remove segments).length ≤ segments.length := by
  have bound := length_removeFrom_le [] segments
  rwa [List.length_nil, Nat.zero_add] at bound

/-- If a dot segment is removed without shortening the path, it is the last one, and an
empty segment takes its place. -/
theorem last_of_same_length {out segments : List Segment} {segment : Segment}
    (present : segment ∈ segments) (isDot : IsDot segment)
    (same : (removeFrom out segments).length = out.length + segments.length) :
    (∃ last ∈ segments.getLast?, IsDot last) ∧ (removeFrom out segments).getLast? = some [] := by
  induction segments generalizing out with
  | nil => cases present
  | cons first rest ih =>
      cases rest with
      | nil =>
          rw [List.mem_singleton] at present
          subst segment
          refine ⟨⟨first, rfl, isDot⟩, ?_⟩
          rcases isDot with rfl | rfl
          · simp [removeFrom, dot]
          · simp [removeFrom, dot, dotDot]
      | cons next others =>
          have nonempty : next :: others ≠ [] := List.cons_ne_nil _ _
          have bound := length_removeFrom_le out (next :: others)
          have boundTail := length_removeFrom_le out.tail (next :: others)
          have popped := List.length_tail (l := out)
          rw [removeFrom] at same ⊢
          simp only [nonempty, if_false, List.length_cons] at same bound boundTail ⊢
          split at same
          case isTrue => omega
          case isFalse notDot =>
            split at same
            case isTrue => omega
            case isFalse notDotDot =>
              have later : segment ∈ next :: others := by
                rcases List.mem_cons.mp present with rfl | later
                · exact absurd isDot (by simp [IsDot, notDot, notDotDot])
                · exact later
              simp only [notDot, notDotDot, if_false]
              have result := ih later (same.trans (by simp only [List.length_cons]; omega))
              rw [List.getLast?_cons_cons]
              exact result

end DotSegments

end Foundation
