import BracketScript.Session.Placeholders
import Mathlib.Data.List.Basic

/-!
# Formats and their segments

A format is made up of segments: text without percent signs, percent signs that are doubled,
placeholders, and percent signs that stand alone. Each segment is read by itself, since the
characters behind it matter for a lone percent sign only, and what is put in for a placeholder is
not read again. So the placeholders take the arguments in order, whatever percent signs are around
them and whatever the arguments hold.

## Main definitions

* `Placeholders.Segment`: a piece of a format
* `Placeholders.Segment.AreApart`: segments that are told apart in the format they make up
* `Placeholders.Segment.filledTexts`: the segments with the arguments put in by number

## Main results

* `Placeholders.Segment.fillChars_append`: one segment is filled
* `Placeholders.Segment.exists_segments`: every format is made up of such segments
* `Placeholders.Segment.fill_segments`: what filling a format comes to
-/

namespace BracketScript.Placeholders

/-! ### What stands behind a percent sign -/

section Chars

variable {cs : List Char} {verb : Char}

/-- A character that is no percent sign is left as it is. -/
theorem fillChars_cons {c : Char} (h : c ≠ '%') (arguments : List (List Char)) (cs : List Char) :
    fillChars arguments (c :: cs) = c :: fillChars arguments cs := by
  rw [fillChars.eq_def arguments (c :: cs)]
  exact if_pos h

theorem fillChars_of_notMem (h : '%' ∉ cs) (arguments : List (List Char)) (rest : List Char) :
    fillChars arguments (cs ++ rest) = cs ++ fillChars arguments rest := by
  induction cs with
  | nil => rfl
  | cons c cs ih =>
    rw [List.mem_cons, not_or] at h
    obtain ⟨hc, hcs⟩ := h
    rw [List.cons_append, fillChars_cons (Ne.symm hc), ih hcs, List.cons_append]

theorem fillChars_doubled (arguments : List (List Char)) (rest : List Char) :
    fillChars arguments ('%' :: '%' :: rest) = '%' :: fillChars arguments rest := rfl

/-- A placeholder takes the first argument and leaves the others to the rest of the format. -/
theorem fillChars_verb (h : isVerb verb = true) (arguments : List (List Char)) (rest : List Char) :
    fillChars arguments ('%' :: verb :: rest) =
      arguments.head?.getD ['%', verb] ++ fillChars arguments.tail rest := by
  have hverb : verb ≠ '%' := by
    rintro rfl
    exact absurd h (by decide)
  rw [fillChars.eq_def arguments ('%' :: verb :: rest)]
  simp only [if_neg hverb, if_pos h]
  cases arguments <;> rfl

/-- A percent sign before such a text stands for itself. -/
def LeavesPercent (cs : List Char) : Prop :=
  ∀ c ∈ cs.head?, c ≠ '%' ∧ isVerb c = false

theorem leavesPercent_nil : LeavesPercent [] := by simp [LeavesPercent]

theorem leavesPercent_cons {c : Char} : LeavesPercent (c :: cs) ↔ c ≠ '%' ∧ isVerb c = false := by
  simp [LeavesPercent]

instance decidableLeavesPercent : DecidablePred LeavesPercent
  | [] => .isTrue leavesPercent_nil
  | _ :: _ => decidable_of_iff _ leavesPercent_cons.symm

theorem fillChars_lone (h : LeavesPercent cs) (arguments : List (List Char)) :
    fillChars arguments ('%' :: cs) = '%' :: fillChars arguments cs := by
  cases cs with
  | nil => rfl
  | cons c rest =>
    obtain ⟨hc, hverb⟩ := leavesPercent_cons.mp h
    rw [fillChars.eq_def arguments ('%' :: c :: rest)]
    simp [hc, hverb]

end Chars

/-! ### Segments -/

/-- A piece of a format. -/
inductive Segment where
  /-- Text without percent signs, which may be empty. -/
  | plain (text : String) (hplain : '%' ∉ text.toList)
  /-- Two percent signs, which stand for one. -/
  | doubled
  /-- A percent sign and the letter that makes it a placeholder. -/
  | placeholder (verb : Char) (hverb : isVerb verb = true)
  /-- A percent sign that stands for itself. -/
  | lone
  deriving DecidableEq

namespace Segment

/-- How a segment is written in a format. -/
def text : Segment → String
  | plain text _ => text
  | doubled => "%%"
  | placeholder verb _ => String.ofList ['%', verb]
  | lone => "%"

/-- What a segment stands for, if there is this argument for it or none. -/
def filled (argument : Option String) : Segment → String
  | plain text _ => text
  | doubled => "%"
  | placeholder verb _ => argument.getD (String.ofList ['%', verb])
  | lone => "%"

/-- Whether a segment takes an argument. -/
def isPlaceholder : Segment → Bool
  | placeholder _ _ => true
  | _ => false

/-- The format that the segments make up. -/
def format (segments : List Segment) : String := String.join (segments.map text)

/-- Segments that are told apart: a lone percent sign is at the end of the format, or what is behind
it begins neither with a percent sign nor with the letter of a placeholder. -/
def AreApart : List Segment → Prop
  | [] => True
  | segment :: rest => (segment = lone → LeavesPercent (format rest).toList) ∧ AreApart rest

instance decidableAreApart : DecidablePred AreApart
  | [] => .isTrue trivial
  | segment :: rest =>
    have := decidableAreApart rest
    inferInstanceAs (Decidable ((segment = lone → _) ∧ AreApart rest))

/-- The segments with the arguments put in. The number of a placeholder is that of the placeholders
before it, and it takes the argument of this number. -/
def filledTexts (arguments : List String) (segments : List Segment) : List String :=
  segments.mapIdx fun i segment =>
    segment.filled arguments[(segments.take i).countP isPlaceholder]?

variable {segments : List Segment}

theorem toList_format_cons (segment : Segment) (segments : List Segment) :
    (format (segment :: segments)).toList = segment.text.toList ++ (format segments).toList := by
  rw [format, format, List.map_cons, String.join_cons, String.toList_append]

/-- A placeholder leaves the arguments behind the first one to the segments behind it. -/
theorem filledTexts_cons (arguments : List String) (segment : Segment) (segments : List Segment) :
    filledTexts arguments (segment :: segments) = segment.filled arguments.head? ::
      filledTexts (if segment.isPlaceholder then arguments.tail else arguments) segments := by
  simp only [filledTexts, List.mapIdx_cons, List.take_zero, List.countP_nil, List.take_succ_cons,
    List.countP_cons, List.head?_eq_getElem?]
  cases segment.isPlaceholder <;> simp

/-! ### Filling -/

/-- One segment is filled, whatever the format is behind it. -/
theorem fillChars_append (segment : Segment) {rest : List Char}
    (h : segment = lone → LeavesPercent rest) (arguments : List String) :
    fillChars (arguments.map String.toList) (segment.text.toList ++ rest) =
      (segment.filled arguments.head?).toList ++
        fillChars ((if segment.isPlaceholder then arguments.tail else arguments).map String.toList)
          rest := by
  cases segment with
  | plain text hplain => exact fillChars_of_notMem hplain _ rest
  | doubled => simp [text, filled, isPlaceholder, fillChars_doubled]
  | placeholder verb hverb =>
    have htext : (placeholder verb hverb).text.toList = ['%', verb] := String.toList_ofList
    rw [htext, List.cons_append, List.cons_append, List.nil_append, fillChars_verb hverb]
    cases arguments with
    | nil => simp [filled, isPlaceholder]
    | cons argument others => rfl
  | lone => simp [text, filled, isPlaceholder, fillChars_lone (h rfl)]

theorem fillChars_format (h : AreApart segments) (arguments : List String) :
    fillChars (arguments.map String.toList) (format segments).toList =
      (String.join (filledTexts arguments segments)).toList := by
  -- a placeholder leaves one argument less to the segments behind it
  induction segments generalizing arguments with
  | nil => simp [format, filledTexts, fillChars]
  | cons segment segments ih =>
    obtain ⟨hsegment, hsegments⟩ := h
    rw [toList_format_cons, fillChars_append segment hsegment, ih hsegments, filledTexts_cons,
      String.join_cons, String.toList_append]

theorem exists_segments_append (segment : Segment) {rest : List Char}
    (h : segment = lone → LeavesPercent rest) :
    (∃ segments, AreApart segments ∧ (format segments).toList = rest) →
      ∃ segments, AreApart segments ∧ (format segments).toList = segment.text.toList ++ rest := by
  rintro ⟨segments, happart, rfl⟩
  exact ⟨segment :: segments, ⟨h, happart⟩, toList_format_cons segment segments⟩

/-- Every format is made up of segments that are told apart. -/
theorem exists_segments (text : String) :
    ∃ segments, AreApart segments ∧ format segments = text := by
  have hchars (arguments : List (List Char)) (cs : List Char) :
      ∃ segments, AreApart segments ∧ (format segments).toList = cs := by
    -- the cases are those in which a format is read, whatever the arguments are
    fun_induction fillChars arguments cs with
    | case1 => exact ⟨[], trivial, rfl⟩
    | case2 arguments c cs hc ih =>
      have hmem : '%' ∉ (String.singleton c).toList := by simpa using Ne.symm hc
      simpa [Segment.text] using exists_segments_append (plain _ hmem) nofun ih
    | case3 arguments c hc =>
      obtain rfl := not_not.mp hc
      exact exists_segments_append lone (fun _ => leavesPercent_nil) ⟨[], trivial, rfl⟩
    | case4 arguments c hc rest ih =>
      obtain rfl := not_not.mp hc
      simpa [Segment.text] using exists_segments_append doubled nofun ih
    | case5 c hc verb rest _ hisVerb ih | case6 c hc verb rest _ hisVerb _ _ ih =>
      obtain rfl := not_not.mp hc
      simpa [Segment.text] using exists_segments_append (placeholder verb hisVerb) nofun ih
    | case7 arguments c hc verb rest hverb hisVerb ih =>
      obtain rfl := not_not.mp hc
      have hleaves : LeavesPercent (verb :: rest) :=
        leavesPercent_cons.mpr ⟨hverb, Bool.eq_false_iff.mpr hisVerb⟩
      simpa [Segment.text] using exists_segments_append lone (fun _ => hleaves) ih
  obtain ⟨segments, happart, htext⟩ := hchars [] text.toList
  exact ⟨segments, happart, String.toList_injective htext⟩

/-- In a format that is made up of segments, each placeholder stands for the argument of its own
number, or for itself if there is none, and the other segments stand for their texts or for one
percent sign. The arguments are put in as they are. -/
theorem fill_segments (h : AreApart segments) (arguments : List String) :
    fill (format segments) arguments = String.join (filledTexts arguments segments) := by
  rw [fill, fillChars_format h, String.ofList_toList]

/-- Percent signs side by side are taken in pairs from the left, an argument with percent signs in
it is put in as it is, and a placeholder behind the last argument is left. -/
theorem fill_segments_percent_signs :
    fill "%%%v: %s%, 5% of %d%%%" ["%v%%", "%"] = "%%v%%: %%, 5% of %d%%" := by
  let segments : List Segment :=
    [.doubled, .placeholder 'v' rfl, .plain ": " (by decide), .placeholder 's' rfl, .lone,
      .plain ", 5" (by decide), .lone, .plain " of " (by decide), .placeholder 'd' rfl, .doubled,
      .lone]
  have hformat : format segments = "%%%v: %s%, 5% of %d%%%" := by decide +kernel
  have hfilled : String.join (filledTexts ["%v%%", "%"] segments) = "%%v%%: %%, 5% of %d%%" := by
    decide +kernel
  have happart : AreApart segments := by decide +kernel
  rw [← hformat, ← hfilled]
  exact fill_segments happart ["%v%%", "%"]

end Segment

end BracketScript.Placeholders
