import BracketScript.Proofs.Script
import BracketScript.Service.Intake

/-!
# Requests do not depend on how they arrive

A request arrives in pieces, and what has arrived is searched for the empty line that ends the head
before each further read. So the pieces could matter in two ways: the empty line, the head and the
body may be cut anywhere, and the length of what has arrived is checked only between two reads. The
first does not matter at all, and the second only for a head whose end lies in the piece that goes
beyond the longest head: then the request is refused exactly if some read ends between the limit and
the end of the head.

## Main definitions

* `emptyLine`: the end of a head
* `Framed`: the first empty line of a stream, what is before it and what is after it
* `framedRequest`: the request that a head and what follows it make
* `Overruns`: a read ends beyond the longest head and before the end of the head

## Main results

* `splitHead?_eq_some_iff`, `splitHead?_eq_none_iff`: the first empty line is found
* `readRequest_of_framed`: a request with an empty line, however it arrives
* `readRequest_of_not_framed`: one without
* `readRequest_framing`: which requests are read, by where their heads end
-/

namespace BracketScript

/-- The line end of the last header field and the empty line after it. -/
def emptyLine : Bytes := [13, 10, 13, 10]

/-- The stream has an empty line, and the first one stands between `head` and `after`. -/
structure Framed (stream head after : Bytes) : Prop where
  eq : stream = head ++ emptyLine ++ after
  first : ∀ p, p ++ emptyLine <+: stream → head.length ≤ p.length

/-- The request with the given head in front of the given bytes: the head must be one, and the body
is as long as it says. -/
def framedRequest (head after : Bytes) : Except ServiceError (Head × Bytes) :=
  match Head.parse head with
  | .error error => .error error
  | .ok head =>
    if head.contentLength ≤ after.length then .ok (head, after.take head.contentLength)
    else .error (.badRequest "connection closed mid-body")

/-- Before some read, or after the last one, more has arrived than the longest head, but less than
`e` bytes. -/
def Overruns (arrived : Bytes) (reads : List Bytes) (e : Nat) : Prop :=
  ∃ done, done <+: reads ∧ maxHead < (arrived ++ done.flatten).length ∧
    (arrived ++ done.flatten).length < e

variable {stream head after arrived : Bytes} {reads : List Bytes}

/-! ### The first empty line -/

theorem length_emptyLine : emptyLine.length = 4 := rfl

/-- An empty line is found where it stands; otherwise the search goes on with the next byte. -/
theorem splitHeadFrom_cons (before : Bytes) (b : UInt8) (rest : Bytes) :
    splitHeadFrom before (b :: rest) =
      if emptyLine <+: b :: rest then some (before.reverse, rest.drop 3)
      else splitHeadFrom (b :: before) rest := by
  rw [splitHeadFrom.eq_def]
  dsimp only
  split
  next after => simp [emptyLine]
  next hne =>
    rw [if_neg]
    rintro ⟨after, h⟩
    obtain ⟨rfl, rfl⟩ := List.cons.inj h
    exact hne after rfl rfl

theorem Framed.length_eq (h : Framed stream head after) :
    stream.length = head.length + emptyLine.length + after.length := by
  rw [h.eq, List.length_append, List.length_append]

/-- Before a stream that does not start with an empty line, the first one moves by one byte. -/
theorem framed_cons_iff {b : UInt8} (h : ¬ emptyLine <+: b :: stream) :
    Framed (b :: stream) head after ↔ ∃ head', head = b :: head' ∧ Framed stream head' after := by
  constructor
  · rintro ⟨heq, hfirst⟩
    rcases head with _ | ⟨c, head'⟩
    · exact absurd ⟨after, heq.symm⟩ h
    · obtain ⟨rfl, hrest⟩ := List.cons.inj heq
      refine ⟨head', rfl, hrest, fun p hp => ?_⟩
      have := hfirst (b :: p) (List.cons_prefix_cons.mpr ⟨rfl, hp⟩)
      exact Nat.le_of_succ_le_succ this
  · rintro ⟨head', rfl, heq, hfirst⟩
    refine ⟨congrArg (b :: ·) heq, fun p hp => ?_⟩
    rcases p with _ | ⟨c, p⟩
    · exact absurd hp h
    · obtain ⟨-, hp⟩ := List.cons_prefix_cons.mp hp
      exact Nat.succ_le_succ (hfirst p hp)

theorem splitHeadFrom_eq_some_iff {before : Bytes} :
    splitHeadFrom before stream = some (head, after) ↔
      ∃ mid, head = before.reverse ++ mid ∧ Framed stream mid after := by
  induction stream generalizing before with
  | nil =>
    refine ⟨nofun, ?_⟩
    rintro ⟨mid, -, hmid⟩
    have hlength := hmid.length_eq
    simp only [List.length_nil, length_emptyLine] at hlength
    omega
  | cons b rest ih =>
    rw [splitHeadFrom_cons]
    split
    next hstart =>
      obtain ⟨after', heq⟩ := hstart
      have hdrop : rest.drop 3 = after' := by
        obtain ⟨-, rfl⟩ := List.cons.inj heq
        rfl
      rw [hdrop]
      constructor
      · rintro ⟨rfl, rfl⟩
        refine ⟨[], by simp, heq.symm, fun p _ => Nat.zero_le _⟩
      · rintro ⟨mid, rfl, hmid⟩
        -- nothing is before an empty line at the start
        have hnil : mid = [] :=
          List.length_eq_zero_iff.mp (Nat.le_zero.mp (hmid.first [] ⟨after', heq⟩))
        subst hnil
        have hafter : after' = after := List.append_cancel_left (heq.trans hmid.eq)
        rw [List.append_nil, hafter]
    next hstart =>
      rw [ih]
      simp only [framed_cons_iff hstart, List.reverse_cons, List.append_assoc,
        List.singleton_append]
      constructor
      · rintro ⟨mid, rfl, hmid⟩
        exact ⟨b :: mid, rfl, mid, rfl, hmid⟩
      · rintro ⟨_, rfl, mid, rfl, hmid⟩
        exact ⟨mid, rfl, hmid⟩

/-- The first empty line is found. -/
theorem splitHead?_eq_some_iff : splitHead? stream = some (head, after) ↔
    Framed stream head after := by
  rw [splitHead?, splitHeadFrom_eq_some_iff]
  simp

theorem splitHead?_eq_none_iff : splitHead? stream = none ↔
    ∀ head after, ¬ Framed stream head after := by
  rw [Option.eq_none_iff_forall_ne_some, Prod.forall]
  simp only [ne_eq, splitHead?_eq_some_iff]

/-- What follows does not move the first empty line. -/
theorem Framed.append (h : Framed stream head after) (more : Bytes) :
    Framed (stream ++ more) head (after ++ more) := by
  refine ⟨by rw [h.eq, List.append_assoc], fun p hp => ?_⟩
  refine Nat.le_of_not_lt fun hlt => ?_
  -- an earlier empty line would end before the first one, so before the end of the stream
  have hlength := h.length_eq
  have hle : (p ++ emptyLine).length ≤ stream.length := by
    rw [List.length_append]
    omega
  have hprefix := List.prefix_of_prefix_length_le hp (List.prefix_append _ _) hle
  exact Nat.not_le_of_lt hlt (h.first p hprefix)

/-- An empty line that ends within the first part of a stream is the first one there. -/
theorem Framed.of_append {more : Bytes} (h : Framed (stream ++ more) head after)
    (hle : head.length + emptyLine.length ≤ stream.length) :
    ∃ after', after = after' ++ more ∧ Framed stream head after' := by
  have hprefix : head ++ emptyLine <+: stream :=
    List.prefix_of_prefix_length_le ⟨after, h.eq.symm⟩ (List.prefix_append _ _)
      (by rwa [List.length_append])
  obtain ⟨after', rfl⟩ := hprefix
  refine ⟨after', ?_, rfl, fun p hp => h.first p (hp.trans (List.prefix_append _ _))⟩
  exact List.append_cancel_left (h.eq.symm.trans (List.append_assoc _ _ _))

theorem Framed.head_eq {head' after' : Bytes} (h : Framed stream head after)
    (h' : Framed stream head' after') : head = head' := by
  have hsplit := (splitHead?_eq_some_iff.mpr h).symm.trans (splitHead?_eq_some_iff.mpr h')
  exact (Prod.mk.inj (Option.some.inj hsplit)).1

/-! ### Reading without errors of the connection -/

/-- As many bytes are read as are missing, if they come. -/
theorem readBody_data (hreads : ∀ read ∈ reads, read ≠ []) (count : Nat) :
    readBody count (reads.map .data) =
      if count ≤ reads.flatten.length then .ok (reads.flatten.take count)
      else .error (.badRequest "connection closed mid-body") := by
  induction reads generalizing count with
  | nil => cases count <;> rfl
  | cons read rest ih =>
    obtain ⟨hread, hrest⟩ := List.forall_mem_cons.mp hreads
    obtain ⟨b, bytes, rfl⟩ := List.exists_cons_of_ne_nil hread
    cases count with
    | zero => rfl
    | succ count =>
      rw [List.map_cons, readBody, ih hrest, List.flatten_cons, List.length_append,
        List.take_append]
      by_cases hmissing : count + 1 ≤ (b :: bytes).length + rest.flatten.length
      · rw [if_pos hmissing, if_pos (by omega)]
      · rw [if_neg hmissing, if_neg (by omega)]

theorem finishRequest_data (hreads : ∀ read ∈ reads, read ≠ []) (head body : Bytes) :
    finishRequest head body (reads.map .data) = framedRequest head (body ++ reads.flatten) := by
  rw [finishRequest, framedRequest]
  cases Head.parse head with
  | error error => rfl
  | ok head =>
    simp only [bind, Except.bind, readBody_data hreads, List.length_append, List.take_append]
    by_cases hlength : head.contentLength ≤ body.length + reads.flatten.length
    · rw [if_pos hlength, if_pos (by omega)]
      rfl
    · rw [if_neg hlength, if_neg (by omega)]

theorem readRequestFrom_of_splitHead? (deliveries : List Delivery)
    (h : splitHead? arrived = some (head, after)) :
    readRequestFrom arrived deliveries = finishRequest head after deliveries := by
  rw [readRequestFrom.eq_def]
  cases deliveries with
  | nil => simp only [closeRequest, h]
  | cons delivery rest => simp only [h]

/-- Without an empty line so far, the next read is made unless too much has arrived. -/
theorem readRequestFrom_cons {read : Bytes} (hread : read ≠ []) (rest : List Delivery)
    (h : splitHead? arrived = none) :
    readRequestFrom arrived (.data read :: rest) =
      if maxHead < arrived.length then .error (.badRequest "request head too large")
      else readRequestFrom (arrived ++ read) rest := by
  obtain ⟨b, bytes, rfl⟩ := List.exists_cons_of_ne_nil hread
  rw [readRequestFrom.eq_def]
  simp only [h]

theorem overruns_cons_iff {read : Bytes} {e : Nat} : Overruns arrived (read :: reads) e ↔
    (maxHead < arrived.length ∧ arrived.length < e) ∨ Overruns (arrived ++ read) reads e := by
  simp only [Overruns, List.prefix_cons_iff]
  constructor
  · rintro ⟨_, rfl | ⟨done, rfl, hdone⟩, hlong, hshort⟩
    · exact .inl (by simpa using And.intro hlong hshort)
    · exact .inr ⟨done, hdone, by simpa using hlong, by simpa using hshort⟩
  · rintro (⟨hlong, hshort⟩ | ⟨done, hdone, hlong, hshort⟩)
    · exact ⟨[], .inl rfl, by simpa using hlong, by simpa using hshort⟩
    · exact ⟨read :: done, .inr ⟨done, rfl, hdone⟩, by simpa using hlong, by simpa using hshort⟩

/-- A head that has arrived is not overrun any more. -/
theorem not_overruns_of_le {e : Nat} (h : e ≤ arrived.length) : ¬ Overruns arrived reads e := by
  rintro ⟨done, -, -, hshort⟩
  rw [List.length_append] at hshort
  omega

/-- A request with an empty line is refused if some read overruns the end of the head, and made of
the head and the bytes after it otherwise. -/
theorem readRequestFrom_of_framed (hreads : ∀ read ∈ reads, read ≠ [])
    (h : Framed (arrived ++ reads.flatten) head after) :
    (Overruns arrived reads (head.length + emptyLine.length) →
      readRequestFrom arrived (reads.map .data) =
        .error (.badRequest "request head too large")) ∧
    (¬ Overruns arrived reads (head.length + emptyLine.length) →
      readRequestFrom arrived (reads.map .data) = framedRequest head after) := by
  -- what has arrived grows by each read, while the whole stream stays the same
  induction reads generalizing arrived with
  | nil =>
    rw [List.flatten_nil, List.append_nil] at h
    have hend : head.length + emptyLine.length ≤ arrived.length := by
      have := h.length_eq
      omega
    refine ⟨fun hover => absurd hover (not_overruns_of_le hend), fun _ => ?_⟩
    have hfinish := finishRequest_data (List.forall_mem_nil (· ≠ [])) head after
    rw [readRequestFrom_of_splitHead? _ (splitHead?_eq_some_iff.mpr h)]
    simpa using hfinish
  | cons read rest ih =>
    obtain ⟨hread, hrest⟩ := List.forall_mem_cons.mp hreads
    by_cases hend : head.length + emptyLine.length ≤ arrived.length
    · -- the head has arrived, and what follows belongs to the body
      obtain ⟨after', rfl, hframed⟩ := h.of_append hend
      refine ⟨fun hover => absurd hover (not_overruns_of_le hend), fun _ => ?_⟩
      rw [readRequestFrom_of_splitHead? _ (splitHead?_eq_some_iff.mpr hframed),
        finishRequest_data hreads]
    · -- an empty line found now would be the first one of the stream, which has not arrived
      have hsplit : splitHead? arrived = none := by
        refine splitHead?_eq_none_iff.mpr fun head' after' hframed => hend ?_
        obtain rfl := (hframed.append _).head_eq h
        have := hframed.length_eq
        omega
      rw [List.flatten_cons, ← List.append_assoc] at h
      obtain ⟨hlarge, hfits⟩ := ih hrest h
      rw [List.map_cons, readRequestFrom_cons hread _ hsplit, overruns_cons_iff]
      by_cases hmax : maxHead < arrived.length
      · rw [if_pos hmax]
        exact ⟨fun _ => rfl, fun hnot => absurd (.inl ⟨hmax, Nat.lt_of_not_le hend⟩) hnot⟩
      · rw [if_neg hmax]
        refine ⟨fun hover => hlarge ?_, fun hnot => hfits fun hover => hnot (.inr hover)⟩
        exact hover.resolve_left fun hlong => hmax hlong.1

/-- A request without an empty line is refused, for one of two reasons. -/
theorem readRequestFrom_of_not_framed (hreads : ∀ read ∈ reads, read ≠ [])
    (h : ∀ head after, ¬ Framed (arrived ++ reads.flatten) head after) :
    readRequestFrom arrived (reads.map .data) =
      if maxHead < (arrived ++ reads.flatten).length then
        .error (.badRequest "request head too large")
      else .error (.badRequest "connection closed mid-request") := by
  induction reads generalizing arrived with
  | nil =>
    rw [List.flatten_nil, List.append_nil] at h ⊢
    rw [List.map_nil, readRequestFrom, closeRequest, splitHead?_eq_none_iff.mpr h]
  | cons read rest ih =>
    obtain ⟨hread, hrest⟩ := List.forall_mem_cons.mp hreads
    have hsplit : splitHead? arrived = none :=
      splitHead?_eq_none_iff.mpr fun head' after' hframed => h _ _ (hframed.append _)
    rw [List.flatten_cons, ← List.append_assoc] at h ⊢
    rw [List.map_cons, readRequestFrom_cons hread _ hsplit, ih hrest h]
    by_cases hmax : maxHead < arrived.length
    · rw [if_pos hmax, if_pos]
      simp only [List.length_append]
      omega
    · rw [if_neg hmax]

/-! ### Where a head may end -/

/-- Reads of at most `m` bytes do not skip more than `m` offsets. -/
theorem exists_prefix_length {m target : Nat} (hm : ∀ read ∈ reads, read.length ≤ m)
    (htarget : target < reads.flatten.length) :
    ∃ done, done <+: reads ∧ target < done.flatten.length ∧ done.flatten.length ≤ target + m := by
  induction reads generalizing target with
  | nil => exact absurd htarget (Nat.not_lt_zero _)
  | cons read rest ih =>
    obtain ⟨hread, hrest⟩ := List.forall_mem_cons.mp hm
    rw [List.flatten_cons, List.length_append] at htarget
    by_cases hpast : target < read.length
    · refine ⟨[read], List.prefix_append [read] rest, by simpa using hpast, ?_⟩
      rw [List.flatten_singleton]
      omega
    · obtain ⟨done, hdone, hlong, hshort⟩ := ih hrest
        (show target - read.length < rest.flatten.length by omega)
      refine ⟨read :: done, List.cons_prefix_cons.mpr ⟨rfl, hdone⟩, ?_⟩
      rw [List.flatten_cons, List.length_append]
      omega

theorem Head.contentLength_le_of_ofChars {cs : List Char} {head : Head}
    (h : Head.ofChars cs = .ok head) : head.contentLength ≤ maxBody := by
  rw [ofChars] at h
  split at h
  next => cases h
  next =>
    obtain ⟨⟨method, path, version⟩, -, h⟩ := exceptBind_eq_ok_iff.mp h
    dsimp only at h
    split at h
    next => cases h
    next =>
      obtain ⟨length, -, h⟩ := exceptBind_eq_ok_iff.mp h
      split at h
      next => cases h
      next hlength =>
        cases h
        exact Nat.le_of_not_lt hlength

/-- The length that a head gives is not too long. -/
theorem Head.contentLength_le_of_parse {bytes : Bytes} {head : Head}
    (h : Head.parse bytes = .ok head) : head.contentLength ≤ maxBody := by
  rw [parse] at h
  split at h
  · exact contentLength_le_of_ofChars h
  · cases h

theorem framedRequest_eq_ok {result : Head × Bytes} (h : framedRequest head after = .ok result) :
    result.2.length = result.1.contentLength ∧ result.1.contentLength ≤ maxBody := by
  rw [framedRequest] at h
  split at h
  next => cases h
  next head hparse =>
    split at h
    next hlength =>
      cases h
      refine ⟨?_, Head.contentLength_le_of_parse hparse⟩
      rw [List.length_take, Nat.min_eq_left hlength]
    next => cases h

theorem readRequest_of_framed (hreads : ∀ read ∈ reads, read ≠ [])
    (h : Framed reads.flatten head after) :
    (Overruns [] reads (head.length + emptyLine.length) →
      readRequest (reads.map .data) = .error (.badRequest "request head too large")) ∧
    (¬ Overruns [] reads (head.length + emptyLine.length) →
      readRequest (reads.map .data) = framedRequest head after) :=
  readRequestFrom_of_framed hreads (by rwa [List.nil_append])

theorem readRequest_of_not_framed (hreads : ∀ read ∈ reads, read ≠ [])
    (h : ∀ head after, ¬ Framed reads.flatten head after) :
    readRequest (reads.map .data) =
      if maxHead < reads.flatten.length then .error (.badRequest "request head too large")
      else .error (.badRequest "connection closed mid-request") := by
  rw [readRequest, readRequestFrom_of_not_framed hreads (by rwa [List.nil_append]),
    List.nil_append]

/-- A head that ends more than one read beyond the longest head is overrun by some read. -/
theorem overruns_of_lt {e : Nat} (hreads : ∀ read ∈ reads, read.length ≤ readLength)
    (he : maxHead + readLength < e) (hle : e ≤ reads.flatten.length) : Overruns [] reads e := by
  obtain ⟨done, hdone, hlong, hshort⟩ :=
    exists_prefix_length hreads (show maxHead < reads.flatten.length by omega)
  exact ⟨done, hdone, hlong, Nat.lt_of_le_of_lt hshort he⟩

theorem not_overruns_of_le_maxHead {e : Nat} (he : e ≤ maxHead + 1) : ¬ Overruns [] reads e := by
  rintro ⟨done, -, hlong, hshort⟩
  omega

/-- Reads that are not errors make a request as follows, where the head and the empty line after it
are `e` bytes long. (a) If `e` is at most one more than the longest head, then the request is what
the head and the bytes after it make, whatever the reads are. (b) If there is no empty line, or `e`
is more than one read beyond the longest head, the request is refused, for its length if that is
beyond the longest head. (c) In between it depends on the reads: it is refused for its length if
some read ends beyond the longest head and before the end of the head, and otherwise as in (a). A
request that is not refused has a body of the length that its head gives, which is not too long. -/
theorem readRequest_framing (h : ∀ read ∈ reads, read ≠ [] ∧ read.length ≤ readLength) :
    (∀ head after, Framed reads.flatten head after →
      (head.length + emptyLine.length ≤ maxHead + 1 →
        readRequest (reads.map .data) = framedRequest head after) ∧
      (maxHead + 1 < head.length + emptyLine.length →
        head.length + emptyLine.length ≤ maxHead + readLength →
        (Overruns [] reads (head.length + emptyLine.length) ∧
            readRequest (reads.map .data) = .error (.badRequest "request head too large")) ∨
          (¬ Overruns [] reads (head.length + emptyLine.length) ∧
            readRequest (reads.map .data) = framedRequest head after))) ∧
    ((∀ head after, Framed reads.flatten head after →
        maxHead + readLength < head.length + emptyLine.length) →
      readRequest (reads.map .data) =
        if reads.flatten.length ≤ maxHead then .error (.badRequest "connection closed mid-request")
        else .error (.badRequest "request head too large")) ∧
    ∀ head body, readRequest (reads.map .data) = .ok (head, body) →
      body.length = head.contentLength ∧ head.contentLength ≤ maxBody := by
  have hne : ∀ read ∈ reads, read ≠ [] := fun read hread => (h read hread).1
  have hshort : ∀ read ∈ reads, read.length ≤ readLength := fun read hread => (h read hread).2
  refine ⟨fun head after hframed => ?_, fun hlate => ?_, fun head body hread => ?_⟩
  · obtain ⟨hlarge, hfits⟩ := readRequest_of_framed hne hframed
    refine ⟨fun he => hfits (not_overruns_of_le_maxHead he), fun _ _ => ?_⟩
    by_cases hover : Overruns [] reads (head.length + emptyLine.length)
    · exact .inl ⟨hover, hlarge hover⟩
    · exact .inr ⟨hover, hfits hover⟩
  · by_cases hframed : ∃ head after, Framed reads.flatten head after
    · obtain ⟨head, after, hframed⟩ := hframed
      have he := hlate head after hframed
      have hlength := hframed.length_eq
      -- the limit and the end of the head are further apart than any read is long
      have hover := overruns_of_lt hshort he (by omega)
      rw [(readRequest_of_framed hne hframed).1 hover, if_neg (by omega)]
    · rw [readRequest_of_not_framed hne fun head after hnot => hframed ⟨head, after, hnot⟩]
      by_cases hmax : maxHead < reads.flatten.length
      · rw [if_pos hmax, if_neg (Nat.not_le_of_lt hmax)]
      · rw [if_neg hmax, if_pos (Nat.le_of_not_lt hmax)]
  · by_cases hframed : ∃ head after, Framed reads.flatten head after
    · obtain ⟨headBytes, after, hframed⟩ := hframed
      obtain ⟨hlarge, hfits⟩ := readRequest_of_framed hne hframed
      by_cases hover : Overruns [] reads (headBytes.length + emptyLine.length)
      · exact absurd ((hlarge hover).symm.trans hread) (by simp)
      · exact framedRequest_eq_ok ((hfits hover).symm.trans hread)
    · rw [readRequest_of_not_framed hne fun head after hnot => hframed ⟨head, after, hnot⟩] at hread
      split at hread <;> cases hread

/-- Reads that cut the empty line and the body, and bring more than the body. -/
def splitReads : List Bytes :=
  [Bytes.ofString "POST /evaluate HTTP/1.1\r\nContent-Length: 2\r\n\r", Bytes.ofString "\na",
    Bytes.ofString "bx"]

/-- The request is read from them as if it had come in one piece. -/
theorem readRequest_framing_split :
    (∀ read ∈ splitReads, read ≠ [] ∧ read.length ≤ readLength) ∧
      Framed splitReads.flatten
        (Bytes.ofString "POST /evaluate HTTP/1.1\r\nContent-Length: 2") (Bytes.ofString "abx") ∧
      readRequest (splitReads.map .data) =
        .ok (⟨"POST", "/evaluate", 2⟩, Bytes.ofString "ab") := by
  have hreads : ∀ read ∈ splitReads, read ≠ [] ∧ read.length ≤ readLength := by decide +kernel
  have hframed : Framed splitReads.flatten
      (Bytes.ofString "POST /evaluate HTTP/1.1\r\nContent-Length: 2") (Bytes.ofString "abx") :=
    splitHead?_eq_some_iff.mp (by decide +kernel)
  have hparse : Head.parse (Bytes.ofString "POST /evaluate HTTP/1.1\r\nContent-Length: 2") =
      .ok ⟨"POST", "/evaluate", 2⟩ :=
    exceptToOption_eq_some_iff.mp (by decide +kernel)
  have hbody : (Bytes.ofString "abx").take 2 = Bytes.ofString "ab" := by decide +kernel
  refine ⟨hreads, hframed, ?_⟩
  rw [((readRequest_framing hreads).1 _ _ hframed).1 (by decide +kernel), framedRequest, hparse]
  dsimp only
  rw [if_pos (by decide +kernel), hbody]

end BracketScript
