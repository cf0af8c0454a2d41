import BracketScript.Proofs.CompactTexts
import BracketScript.Session.Arguments
import Mathlib.Data.List.Chain

/-!
# Objects whose quotes are unescaped

An argument that is a JSON object may be written with escaped quotes: each backslash before a quote
is dropped before the text is read. This does not ask where the text comes from, so it happens to
the compact text of an object too, in which a backslash stands before a quote for two reasons: the
quote belongs to a string, or a string ends with a backslash. An object without such strings is read
back as it is. Any other object is not: what is left of its text has too few backslashes to be a
text of it.

## Main definitions

* `NoEscapedQuote`: no backslash stands before a quote
* `Json.strings`: the strings of a value, names of members among them
* `Json.IsSafe`: the strings that are written without an escaped quote

## Main results

* `noEscapedQuote_compact`: the texts of which values have no escaped quote
* `jsonObject_compact_eq_ok_iff`: which objects are read back from their texts
-/

namespace BracketScript

/-! ### Unescaping -/

/-- No backslash stands before a quote. -/
def NoEscapedQuote (cs : List Char) : Prop :=
  cs.IsChain fun c d => c = '\\' → d ≠ '"'

variable {cs ds : List Char} {c : Char}

/-- Two texts make an escaped quote only if the first one ends with a backslash and the second one
starts with a quote. -/
theorem noEscapedQuote_append (h : cs.getLast? ≠ some '\\' ∨ ds.head? ≠ some '"') :
    NoEscapedQuote (cs ++ ds) ↔ NoEscapedQuote cs ∧ NoEscapedQuote ds := by
  rw [NoEscapedQuote, List.isChain_append, ← and_assoc]
  refine and_iff_left fun c hc d hd hbackslash hquote => ?_
  subst hbackslash hquote
  exact h.elim (absurd hc) (absurd hd)

theorem noEscapedQuote_of_notMem (h : '\\' ∉ cs) : NoEscapedQuote cs := by
  refine List.Pairwise.isChain (List.pairwise_of_forall_mem_list fun c hc d _ hbackslash => ?_)
  subst hbackslash
  exact absurd hc h

theorem unescapeQuotes_eq_self (h : NoEscapedQuote cs) : unescapeQuotes cs = cs := by
  fun_induction unescapeQuotes cs with
  | case1 => rfl
  | case2 cs => exact absurd rfl ((List.isChain_cons_cons.mp h).1 rfl)
  | case3 c cs _ ih => rw [ih (List.IsChain.tail h)]

theorem sum_unescapeQuotes_le (cs : List Char) :
    ((unescapeQuotes cs).map Json.mark).sum ≤ (cs.map Json.mark).sum := by
  fun_induction unescapeQuotes cs with
  | case1 => exact Nat.le_refl _
  | case2 cs ih =>
    simp only [List.map_cons, List.sum_cons]
    omega
  | case3 c cs _ ih =>
    simp only [List.map_cons, List.sum_cons]
    omega

/-- Unescaping a quote drops a mark. -/
theorem noEscapedQuote_of_sum_le
    (h : (cs.map Json.mark).sum ≤ ((unescapeQuotes cs).map Json.mark).sum) : NoEscapedQuote cs := by
  fun_induction unescapeQuotes cs with
  | case1 => exact List.isChain_nil
  | case2 cs ih =>
    -- a backslash has been dropped, and nothing after it can make up for that
    have hdropped := sum_unescapeQuotes_le cs
    have hbackslash : Json.mark '\\' = 1 := by decide
    simp only [List.map_cons, List.sum_cons, hbackslash] at h
    omega
  | case3 c cs hnot ih =>
    rw [List.map_cons, List.map_cons, List.sum_cons, List.sum_cons] at h
    refine List.isChain_cons.mpr ⟨fun d hd hc hquote => ?_, ih (Nat.le_of_add_le_add_left h)⟩
    obtain ⟨cs, rfl⟩ := List.head?_eq_some_iff.mp hd
    exact hnot cs hc (by rw [hquote])

namespace Json

/-! ### Strings in compact texts -/

/-- A string that is written without an escaped quote: it has no quote and does not end with a
backslash. -/
def IsSafe (s : String) : Prop := '"' ∉ s.toList ∧ s.toList.getLast? ≠ some '\\'

instance (s : String) : Decidable (IsSafe s) := inferInstanceAs (Decidable (_ ∧ _))

/-- The escape of a character that is no quote and no backslash has no escaped quote in it, and none
comes about after it. -/
theorem escapeChar_plain (hquote : c ≠ '"') (hbackslash : c ≠ '\\') :
    NoEscapedQuote (escapeChar c) ∧ (escapeChar c).getLast? ≠ some '\\' := by
  have hdigit : ∀ n < 16, hexDigit n ≠ '\\' := by decide
  have hescape := isEscape_escapeChar c
  generalize escapeChar c = escape at hescape
  cases hescape with
  | quote hc => exact absurd hc hquote
  | backslash hc => exact absurd hc hbackslash
  | letter _ _ hd =>
    rcases hd with rfl | rfl | rfl | rfl | rfl <;> exact ⟨by simp [NoEscapedQuote], by decide⟩
  | @control m n _ _ hm hn =>
    exact ⟨by simp [NoEscapedQuote, hdigit m hm], by simpa using hdigit n hn⟩
  | plain => exact ⟨List.isChain_singleton _, by simpa using hbackslash⟩

/-- No escape starts with a quote. -/
theorem head?_escapeChar_append (c : Char) (cs : List Char) :
    (escapeChar c ++ cs).head? ≠ some '"' := by
  have hescape := isEscape_escapeChar c
  generalize escapeChar c = escape at hescape
  cases hescape with
  | plain hquote => simpa using hquote
  | _ => simp

/-- The escapes of a string, with the closing quote, have an escaped quote for each quote in it, and
one more if the string ends with a backslash. -/
theorem noEscapedQuote_flatMap (cs : List Char) :
    NoEscapedQuote (cs.flatMap escapeChar ++ ['"']) ↔ '"' ∉ cs ∧ cs.getLast? ≠ some '\\' := by
  induction cs with
  | nil => simp [NoEscapedQuote]
  | cons c cs ih =>
    rw [List.flatMap_cons, List.append_assoc]
    by_cases hquote : c = '"'
    · subst hquote
      simp [NoEscapedQuote, escapeChar]
    by_cases hbackslash : c = '\\'
    · -- its two backslashes stand before a quote only if nothing of the string is left
      subst hbackslash
      cases cs with
      | nil => simp [NoEscapedQuote, escapeChar]
      | cons d ds =>
        have hhead : ∀ e ∈ ((d :: ds).flatMap escapeChar ++ ['"']).head?, e ≠ '"' := by
          rintro e he rfl
          rw [List.flatMap_cons, List.append_assoc] at he
          exact head?_escapeChar_append d _ he
        rw [NoEscapedQuote] at ih ⊢
        rw [show escapeChar '\\' = ['\\', '\\'] from rfl, List.cons_append, List.cons_append,
          List.nil_append, List.isChain_cons_cons, List.isChain_cons, ih, List.getLast?_cons_cons]
        simp [hhead]
    · obtain ⟨hescape, hlast⟩ := escapeChar_plain hquote hbackslash
      rw [noEscapedQuote_append (.inl hlast), and_iff_right hescape, ih, List.mem_cons, not_or,
        and_iff_right (Ne.symm hquote)]
      cases cs with
      | nil => simp [hbackslash]
      | cons d ds => rw [List.getLast?_cons_cons]

theorem noEscapedQuote_quote (s : String) : NoEscapedQuote (quote s).toList ↔ IsSafe s := by
  rw [quote, String.toList_ofList, List.append_assoc, noEscapedQuote_append (.inl (by decide)),
    noEscapedQuote_flatMap]
  exact and_iff_right (List.isChain_singleton _)

mutual

/-- The strings of a value, names of members among them. -/
def strings : Json → List String
  | null | bool _ | number _ => []
  | string s => [s]
  | array items => stringsOfItems items
  | object members => stringsOfMembers members

/-- The strings of items. -/
def stringsOfItems : List Json → List String
  | [] => []
  | item :: rest => strings item ++ stringsOfItems rest

/-- The names of members and the strings of their values. -/
def stringsOfMembers : List (String × Json) → List String
  | [] => []
  | (name, value) :: rest => name :: (strings value ++ stringsOfMembers rest)

end

/-! ### Compact texts -/

theorem getLast?_compact (v : Json) : v.compact.toList.getLast? ≠ some '\\' := by
  have hclosed {front : String} {d : Char} (hd : d ≠ '\\') :
      (front ++ String.singleton d).toList.getLast? ≠ some '\\' := by
    simpa using hd
  cases v with
  | null => decide
  | bool b => cases b <;> decide
  | number n =>
    intro h
    exact absurd (isNumberChar_text n '\\' (List.mem_of_getLast? h)) (by decide)
  | string s =>
    rw [compact, quote, String.toList_ofList, List.getLast?_append_of_ne_nil _ (by simp)]
    decide
  | array items => exact hclosed (d := ']') (by decide)
  | object members => exact hclosed (d := '\x7d') (by decide)

/-- Joining texts with commas makes no escaped quote. -/
theorem noEscapedQuote_joinWith {texts : List String}
    (h : ∀ text ∈ texts, text.toList.getLast? ≠ some '\\') :
    NoEscapedQuote (Text.joinWith "," texts).toList ↔
      ∀ text ∈ texts, NoEscapedQuote text.toList := by
  induction texts with
  | nil => simp [NoEscapedQuote]
  | cons text rest ih =>
    obtain ⟨htext, hrest⟩ := List.forall_mem_cons.mp h
    cases rest with
    | nil => simp
    | cons next rest =>
      have hcomma : NoEscapedQuote ",".toList := List.isChain_singleton _
      rw [Text.joinWith_cons_cons, String.append_assoc, String.toList_append, String.toList_append,
        noEscapedQuote_append (.inl htext), noEscapedQuote_append (.inl (by decide)), ih hrest,
        and_iff_right hcomma, List.forall_mem_cons (a := text)]

/-- The same with brackets around them. -/
theorem noEscapedQuote_enclosed {opening closing : Char} (hopening : opening ≠ '\\')
    (hclosing : closing ≠ '"') {texts : List String}
    (h : ∀ text ∈ texts, text.toList.getLast? ≠ some '\\') :
    NoEscapedQuote ([opening] ++ (Text.joinWith "," texts).toList ++ [closing]) ↔
      ∀ text ∈ texts, NoEscapedQuote text.toList := by
  rw [noEscapedQuote_append (.inr (by simpa using hclosing)),
    noEscapedQuote_append (.inl (by simpa using hopening)), noEscapedQuote_joinWith h]
  simp [NoEscapedQuote]

theorem getLast?_compactMember (name : String) (v : Json) :
    (quote name ++ ":" ++ v.compact).toList.getLast? ≠ some '\\' := by
  rw [String.toList_append, List.getLast?_append]
  cases hlast : v.compact.toList.getLast? with
  | none => simp
  | some d =>
    have hcompact := getLast?_compact v
    rwa [hlast] at hcompact

theorem noEscapedQuote_compactMember (name : String) (v : Json) :
    NoEscapedQuote (quote name ++ ":" ++ v.compact).toList ↔
      IsSafe name ∧ NoEscapedQuote v.compact.toList := by
  have hcolon : NoEscapedQuote ":".toList := List.isChain_singleton _
  rw [String.append_assoc, String.toList_append, String.toList_append,
    noEscapedQuote_append (.inr (by simp)), noEscapedQuote_append (.inl (by decide)),
    noEscapedQuote_quote, and_iff_right hcolon]

mutual

/-- The compact text of a value has no escaped quote if each of its strings is written without. -/
theorem noEscapedQuote_compact : (v : Json) →
    (NoEscapedQuote v.compact.toList ↔ ∀ s ∈ v.strings, IsSafe s)
  | null => by simp [compact, strings, NoEscapedQuote]
  | bool b => by cases b <;> simp [compact, strings, NoEscapedQuote]
  | number n => by
    have hplain : '\\' ∉ n.text.toList := fun h => absurd (isNumberChar_text n _ h) (by decide)
    simpa [compact, strings] using noEscapedQuote_of_notMem hplain
  | string s => by simpa [compact, strings] using noEscapedQuote_quote s
  | array items => by
    have hlast : ∀ text ∈ compactItems items, text.toList.getLast? ≠ some '\\' := by
      rw [compactItems_eq_map]
      exact List.forall_mem_map.mpr fun item _ => getLast?_compact item
    rw [compact, strings, String.toList_append, String.toList_append]
    exact (noEscapedQuote_enclosed (by decide) (by decide) hlast).trans
      (noEscapedQuote_compactItems items)
  | object members => by
    have hlast : ∀ text ∈ compactMembers members, text.toList.getLast? ≠ some '\\' := by
      rw [compactMembers_eq_map]
      exact List.forall_mem_map.mpr fun member _ => getLast?_compactMember member.1 member.2
    rw [compact, strings, String.toList_append, String.toList_append]
    exact (noEscapedQuote_enclosed (by decide) (by decide) hlast).trans
      (noEscapedQuote_compactMembers members)

/-- So do the texts of items. -/
theorem noEscapedQuote_compactItems : (items : List Json) →
    ((∀ text ∈ compactItems items, NoEscapedQuote text.toList) ↔
      ∀ s ∈ stringsOfItems items, IsSafe s)
  | [] => by simp [compactItems, stringsOfItems]
  | item :: rest => by
    rw [compactItems, stringsOfItems, List.forall_mem_cons, List.forall_mem_append,
      noEscapedQuote_compact item, noEscapedQuote_compactItems rest]

/-- So do the texts of members. -/
theorem noEscapedQuote_compactMembers : (members : List (String × Json)) →
    ((∀ text ∈ compactMembers members, NoEscapedQuote text.toList) ↔
      ∀ s ∈ stringsOfMembers members, IsSafe s)
  | [] => by simp [compactMembers, stringsOfMembers]
  | (name, value) :: rest => by
    rw [compactMembers, stringsOfMembers, List.forall_mem_cons, List.forall_mem_cons,
      List.forall_mem_append, noEscapedQuote_compactMember, noEscapedQuote_compact value,
      noEscapedQuote_compactMembers rest, and_assoc]

end

end Json

/-! ### Reading objects back -/

/-- An argument is an object if its text is one once quotes are unescaped. -/
theorem jsonObject_eq_ok_iff {text : String} {members : List (String × Json)} :
    jsonObject text = .ok (.object members) ↔
      Json.parse (String.ofList (unescapeQuotes text.toList)) = .ok (.object members) := by
  rw [jsonObject]
  rcases Json.parse (String.ofList (unescapeQuotes text.toList)) with report | v
  · exact ⟨nofun, nofun⟩
  · cases v with
    | object read => simp only [Except.ok.injEq, Json.object.injEq]
    | _ => exact ⟨nofun, nofun⟩

/-- An object is read back from its compact text if no string of it has a quote or ends with a
backslash. Otherwise its text cannot be read, or as something else only. -/
theorem jsonObject_compact_eq_ok_iff {members : List (String × Json)}
    (hread : Json.parse (Json.object members).compact = .ok (.object members)) :
    jsonObject (Json.object members).compact = .ok (.object members) ↔
      ∀ s ∈ (Json.object members).strings, Json.IsSafe s := by
  rw [← Json.noEscapedQuote_compact, jsonObject_eq_ok_iff]
  constructor
  · intro h
    -- what is left has as many marks as the compact text, so nothing has been dropped
    have hcost := Json.cost_le_of_parse h
    rw [String.toList_ofList] at hcost
    exact noEscapedQuote_of_sum_le hcost
  · intro h
    rw [unescapeQuotes_eq_self h, String.ofList_toList, hread]

end BracketScript
