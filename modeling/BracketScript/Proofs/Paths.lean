import BracketScript.Proofs.Separators
import BracketScript.Scripts.Path

/-!
# Segments and components of paths

A path is cut into segments at its slashes. The segments that name something are its components:
empty segments and single dots name nothing. So a path has many spellings, and below a root two of
them lead to the same place if their components are the same. Only one spelling of a place is plain,
that is, made of the components alone.

## Main definitions

* `Path.IsPlain`: every segment of the path is a component
* `Path.SameTarget`: two paths lead to the same place below a root

## Main results

* `Path.segments_append`: the segments on the two sides of a slash
* `Path.components_join`: the components of a path below a root
* `Path.sameTarget_iff`: which paths lead to the same place
* `Path.SameTarget.eq`: one place has one plain spelling
-/

namespace BracketScript

namespace Path

variable {root path p q : String}

/-! ### Segments and components -/

/-- The segments of a path are those before a slash and those after it. -/
theorem segments_append (before after : String) :
    segments (before ++ "/" ++ after) = segments before ++ segments after := by
  have htext : (before ++ "/" ++ after).toList = before.toList ++ '/' :: after.toList := by simp
  rw [segments, Text.splitOn, htext]
  exact (congrArg (List.map String.ofList)
    (Text.Chars.splitOnFrom_append '/' [] before.toList after.toList)).trans List.map_append

theorem components_append (before after : String) :
    components (before ++ "/" ++ after) = components before ++ components after := by
  rw [components, segments_append, List.filter_append]
  rfl

/-- A slash at the end does not add a component. -/
theorem components_concat (path : String) : components (path ++ "/") = components path := by
  have h := components_append path ""
  rw [String.append_empty] at h
  rw [h, show components "" = [] from by decide, List.append_nil]

/-- The components of a path appended to another one are those of both. -/
theorem components_join (base path : String) :
    components (join base path) = components base ++ components path := by
  rw [join]
  split
  next hbase =>
    rw [List.getLast?_eq_none_iff, String.toList_eq_nil_iff] at hbase
    rw [hbase, show components "" = [] from by decide, List.nil_append]
  next c hbase =>
    split
    next hc =>
      -- the slash at the end of the first path is the one between the two
      obtain ⟨cs, hcs⟩ := List.getLast?_eq_some_iff.mp (hc ▸ hbase)
      obtain rfl : base = String.ofList cs ++ "/" := by
        rw [← String.toList_inj, hcs]
        simp
      rw [components_append, components_concat]
    next => exact components_append base path

theorem components_stripHere (path : String) : components (stripHere path) = components path := by
  have hchars (cs : List Char) :
      components (String.ofList (stripHereChars cs)) = components (String.ofList cs) := by
    fun_induction stripHereChars cs with
    | case1 cs ih =>
      have htext : String.ofList ('.' :: '/' :: cs) = "." ++ "/" ++ String.ofList cs := by
        rw [← String.toList_inj]
        simp
      rw [ih, htext, components_append, show components "." = [] from by decide, List.nil_append]
    | case2 cs => rfl
  rw [stripHere, hchars, String.ofList_toList]

/-! ### Targets below a root -/

/-- Both paths lead to a place below the root, and it is the same for both: the components are the
same. -/
def SameTarget (root p q : String) : Prop :=
  ∃ a b, resolve? root p = some a ∧ resolve? root q = some b ∧ components a = components b

theorem resolve?_eq_some_iff {a : String} :
    resolve? root p = some a ↔ leavesRoot (stripHere p) = false ∧ join root (stripHere p) = a := by
  rw [resolve?, Option.ite_none_left_eq_some, Bool.not_eq_true, Option.some.injEq]

theorem components_of_resolve? {a : String} (h : resolve? root p = some a) :
    components a = components root ++ components p := by
  obtain ⟨-, rfl⟩ := resolve?_eq_some_iff.mp h
  rw [components_join, components_stripHere]

/-- Two paths lead to the same place if neither leads out of the root and they have the same
components. -/
theorem sameTarget_iff : SameTarget root p q ↔ leavesRoot (stripHere p) = false ∧
    leavesRoot (stripHere q) = false ∧ components p = components q := by
  constructor
  · rintro ⟨a, b, ha, hb, hab⟩
    rw [components_of_resolve? ha, components_of_resolve? hb, List.append_cancel_left_eq] at hab
    exact ⟨(resolve?_eq_some_iff.mp ha).1, (resolve?_eq_some_iff.mp hb).1, hab⟩
  · rintro ⟨hp, hq, hpq⟩
    have ha : resolve? root p = some (join root (stripHere p)) :=
      resolve?_eq_some_iff.mpr ⟨hp, rfl⟩
    have hb : resolve? root q = some (join root (stripHere q)) :=
      resolve?_eq_some_iff.mpr ⟨hq, rfl⟩
    refine ⟨_, _, ha, hb, ?_⟩
    rw [components_of_resolve? ha, components_of_resolve? hb, hpq]

/-! ### Plain spellings -/

/-- No segment of the path is empty or a single dot. -/
def IsPlain (path : String) : Prop := ∀ s ∈ segments path, s ≠ "" ∧ s ≠ "."

instance (path : String) : Decidable (IsPlain path) :=
  inferInstanceAs (Decidable (∀ s ∈ segments path, s ≠ "" ∧ s ≠ "."))

theorem IsPlain.components_eq (h : IsPlain path) : components path = segments path := by
  rw [components, List.filter_eq_self]
  intro s hs
  simpa using h s hs

/-- A path is determined by its segments. -/
theorem eq_of_segments_eq (h : segments p = segments q) : p = q := by
  have hpieces : Text.Chars.splitOn ['/'] p.toList = Text.Chars.splitOn ['/'] q.toList :=
    (List.map_inj_right fun _ _ => String.ofList_inj.mp).mp h
  rw [← String.toList_inj, ← Text.Chars.intercalate_splitOn (List.cons_ne_nil '/' []) p.toList,
    hpieces, Text.Chars.intercalate_splitOn (List.cons_ne_nil '/' [])]

/-- One place has one plain spelling. -/
theorem SameTarget.eq (h : SameTarget root p q) (hp : IsPlain p) (hq : IsPlain q) : p = q := by
  obtain ⟨-, -, hcomponents⟩ := sameTarget_iff.mp h
  rw [hp.components_eq, hq.components_eq] at hcomponents
  exact eq_of_segments_eq hcomponents

end Path

end BracketScript
