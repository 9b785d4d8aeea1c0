import SctpConformance.Http.Request
import Mathlib.Data.List.TakeWhile

/-!
# Requests in pieces

What `ReadHttpRequest` makes of a stream of bytes, however it is cut into pieces.  The
pieces matter in one respect only: how much has been read when the first end of the
headers has been read completely.

Main results:

- Definition `stopAt`: how much has been read then.
- Definition `outcome`: the result for a stream of which so much has been read.
- Theorem `readHttpRequest_outcome`: the result is the outcome at the stopping point.
- Theorem `exists_cut`: the stopping points that some pieces lead to.
-/

namespace SctpConformance

open Library

/-! ## Searching in a prefix -/

/-- A pattern is found in a prefix of a text if the prefix contains its first
occurrence. -/
theorem findText_take {pattern : CppString} (hpattern : pattern ≠ []) (s : CppString) (b : Nat) :
    findText pattern (s.take b) =
      match findText pattern s with
      | some n => if n + pattern.length ≤ b then some n else none
      | none => none := by
  have hpos := List.length_pos_iff.mpr hpattern
  induction s generalizing b with
  | nil =>
      rw [List.take_nil]
      rfl
  | cons ch rest ih =>
      cases b with
      | zero =>
          rw [List.take_zero, findText]
          split
          · rw [if_neg (by omega)]
          · rfl
      | succ b =>
          rw [List.take_succ_cons, findText, findText]
          have hmatch : pattern.isPrefixOf (ch :: rest.take b) =
              (pattern.isPrefixOf (ch :: rest) && decide (pattern.length ≤ b + 1)) := by
            rw [Bool.eq_iff_iff, Bool.and_eq_true, decide_eq_true_eq, List.isPrefixOf_iff_prefix,
              List.isPrefixOf_iff_prefix, ← List.take_succ_cons, List.prefix_take_iff]
          rw [hmatch, ih]
          by_cases hhere : pattern.isPrefixOf (ch :: rest) = true
          · rw [hhere]
            by_cases hfits : pattern.length ≤ b + 1
            · simp [hfits]
            · have hnone : ∀ n, findText pattern rest = some n → ¬n + pattern.length ≤ b := by
                intro n _
                omega
              simp only [hfits, decide_false, Bool.and_false, Bool.false_eq_true, if_false, if_true]
              cases hrest : findText pattern rest with
              | none => simp [hfits]
              | some n => simp [hfits, hnone n hrest]
          · rw [Bool.not_eq_true] at hhere
            rw [hhere]
            simp only [Bool.false_and, Bool.false_eq_true, if_false]
            cases hrest : findText pattern rest with
            | none => rfl
            | some n =>
                by_cases hfits : n + pattern.length ≤ b
                · have hfits' : n + 1 + pattern.length ≤ b + 1 := by omega
                  simp [hfits, hfits']
                · have hfits' : ¬n + 1 + pattern.length ≤ b + 1 := by omega
                  simp [hfits, hfits']

/-- The pattern stands where it is found. -/
theorem findText_isPrefixOf {pattern s : CppString} {n : Nat} (h : findText pattern s = some n) :
    pattern.isPrefixOf (s.drop n) = true := by
  induction s generalizing n with
  | nil => contradiction
  | cons ch rest ih =>
      rw [findText] at h
      split at h
      · rename_i hhere
        cases h
        exact hhere
      · cases hrest : findText pattern rest with
        | none =>
            rw [hrest] at h
            contradiction
        | some m =>
            rw [hrest] at h
            cases h
            exact ih hrest

/-- An occurrence of the pattern lies within the text. -/
theorem findText_length {pattern : CppString} (hpattern : pattern ≠ []) {s : CppString} {n : Nat}
    (h : findText pattern s = some n) : n + pattern.length ≤ s.length := by
  have hwhole := findText_take hpattern s s.length
  rw [List.take_length, h] at hwhole
  by_contra hlong
  simp [hlong] at hwhole

/-! ## The first end of the headers -/

/-- The length of the shortest prefix that contains an end of the headers. -/
def headLength (s : CppString) : Option Nat :=
  match findText crlfEnd s, findText lfEnd s with
  | some p, some q => some (min (p + 4) (q + 2))
  | some p, none => some (p + 4)
  | none, some q => some (q + 2)
  | none, none => none

/-- The end of the head in what has been read. -/
theorem headerEnd_take (s : CppString) (b : Nat) :
    headerEnd (s.take b) =
      match findText crlfEnd (s.take b) with
      | some p => some p
      | none => findText lfEnd (s.take b) :=
  rfl

/-- The four bytes are found as soon as all of them have been read. -/
theorem findText_crlf_take (s : CppString) (b : Nat) :
    findText crlfEnd (s.take b) =
      match findText crlfEnd s with
      | some p => if p + 4 ≤ b then some p else none
      | none => none :=
  findText_take (by decide) s b

/-- So are the two newlines. -/
theorem findText_lf_take (s : CppString) (b : Nat) :
    findText lfEnd (s.take b) =
      match findText lfEnd s with
      | some q => if q + 2 ≤ b then some q else none
      | none => none :=
  findText_take (by decide) s b

/-- An end of the headers is found in a prefix exactly if the prefix is long enough. -/
theorem headerEnd_take_eq_none (s : CppString) (b : Nat) :
    headerEnd (s.take b) = none ↔ ∀ n, headLength s = some n → b < n := by
  rw [headerEnd_take, findText_crlf_take, findText_lf_take, headLength]
  cases findText crlfEnd s with
  | none =>
      cases findText lfEnd s with
      | none => simp
      | some q =>
          by_cases hq : q + 2 ≤ b
          · simp [hq]
          · simp [hq]
            omega
  | some p =>
      by_cases hp : p + 4 ≤ b
      · cases findText lfEnd s with
        | none => simp [hp]
        | some q => simp [hp]
      · cases findText lfEnd s with
        | none =>
            simp [hp]
            omega
        | some q =>
            by_cases hq : q + 2 ≤ b
            · simp [hp, hq]
            · simp [hp, hq]
              omega

/-- The head lies within the text. -/
theorem headLength_le {s : CppString} {n : Nat} (h : headLength s = some n) :
    0 < n ∧ n ≤ s.length := by
  unfold headLength at h
  split at h
  · rename_i p q hp hq
    have hpLength := findText_length (by decide) hp
    have hpattern : crlfEnd.length = 4 := rfl
    cases h
    omega
  · rename_i p hp hq
    have hpLength := findText_length (by decide) hp
    have hpattern : crlfEnd.length = 4 := rfl
    cases h
    omega
  · rename_i q hp hq
    have hqLength := findText_length (by decide) hq
    have hpattern : lfEnd.length = 2 := rfl
    cases h
    omega
  · contradiction

/-! ## What is made of a stream -/

/-- The rest of `ReadHttpRequest` when the headers end at `headEnd` and the body begins at
`offset`. -/
def finishRequest (ending : ReadEnd) (s : CppString) (headEnd offset : Nat) :
    Except CppString HttpRequest :=
  match parseHead (s.take headEnd) with
  | .error error => .error error
  | .ok request =>
      if (s.drop offset).length < contentLength request.headers then .error ending.bodyError
      else .ok { request with body := (s.drop offset).take (contentLength request.headers) }

/-- The result for a stream of which `b` bytes have been read when an end of the headers
is found. -/
def outcome (ending : ReadEnd) (s : CppString) (b : Nat) : Except CppString HttpRequest :=
  if maxHeaderBytes < b then .error (str "request too large")
  else
    match headerEnd (s.take b) with
    | none => .error ending.headerError
    | some n => finishRequest ending s n (bodyOffset (s.take b) n)

/-- How many bytes have been read when there are at least `n`. -/
def stopAt (n : Nat) : List CppString → Nat → Nat
  | [], count => count
  | piece :: pieces, count => if n ≤ count then count else stopAt n pieces (count + piece.length)

/-- The body is read when enough has come, and is an error otherwise. -/
theorem readBody_eq (ending : ReadEnd) (length : Nat) (pieces : List CppString)
    (body : CppString) :
    readBody ending length pieces body =
      if (body ++ pieces.flatten).length < length then .error ending.bodyError
      else .ok ((body ++ pieces.flatten).take length) := by
  induction pieces generalizing body with
  | nil => rw [List.flatten_nil, List.append_nil, readBody]
  | cons piece pieces ih =>
      rw [readBody]
      split
      · rw [ih, List.flatten_cons, List.append_assoc]
      · rename_i hlong
        rw [if_neg (by rw [List.length_append]; omega), List.take_append_of_le_length (by omega)]

/-- The headers and the body begin within what has been read. -/
theorem bodyOffset_le {raw : CppString} {n : Nat} (h : headerEnd raw = some n) :
    n ≤ raw.length ∧ bodyOffset raw n ≤ raw.length := by
  have hlength : n + 2 ≤ raw.length := by
    unfold headerEnd at h
    split at h
    · rename_i p hp
      cases h
      have hlength := findText_length (by decide) hp
      have hpattern : crlfEnd.length = 4 := rfl
      omega
    · exact findText_length (by decide) h
  refine ⟨by omega, ?_⟩
  unfold bodyOffset
  split
  · rename_i hcrlf
    have hfour := congrArg List.length hcrlf
    have hpattern : crlfEnd.length = 4 := rfl
    rw [List.length_take, List.length_drop, hpattern] at hfour
    omega
  · exact hlength

/-- The reader has read at least what it had at the start. -/
theorem le_stopAt (n : Nat) (pieces : List CppString) (count : Nat) :
    count ≤ stopAt n pieces count := by
  induction pieces generalizing count with
  | nil => exact Nat.le_refl count
  | cons piece pieces ih =>
      rw [stopAt]
      split
      · exact Nat.le_refl count
      · exact Nat.le_trans (Nat.le_add_right _ _) (ih _)

/-- The header loop on a stream with an end of the headers. -/
theorem readHeader_some (ending : ReadEnd) {s : CppString} {n : Nat} (hn : headLength s = some n)
    {pieces : List CppString} {raw : CppString} (hs : raw ++ pieces.flatten = s)
    (hraw : raw.length ≤ maxHeaderBytes) :
    (maxHeaderBytes < stopAt n pieces raw.length →
      readHeader ending pieces raw = .error (str "request too large")) ∧
    (stopAt n pieces raw.length ≤ maxHeaderBytes →
      ∃ k rest, headerEnd (s.take (stopAt n pieces raw.length)) = some k ∧
        rest.flatten = s.drop (stopAt n pieces raw.length) ∧
        readHeader ending pieces raw =
          .ok { raw := s.take (stopAt n pieces raw.length), headerEnd := k, pieces := rest }) := by
  have htake : ∀ {raw more : CppString}, raw ++ more = s → s.take raw.length = raw := by
    rintro raw more rfl
    exact List.take_left
  have hfound : ∀ {raw more : CppString}, raw ++ more = s → n ≤ raw.length →
      ∃ k, headerEnd raw = some k := by
    intro raw more hmore hle
    rw [← Option.ne_none_iff_exists', ← htake hmore, Ne, headerEnd_take_eq_none]
    intro hnone
    have hlt := hnone n hn
    omega
  induction pieces generalizing raw with
  | nil =>
      rw [stopAt]
      have hwhole : raw = s := by simpa using hs
      have hle : n ≤ raw.length := by
        rw [hwhole]
        exact (headLength_le hn).2
      rcases hfound hs hle with ⟨k, hk⟩
      refine ⟨fun hlarge => by omega, fun _ => ⟨k, [], ?_, ?_, ?_⟩⟩
      · rw [htake hs, hk]
      · rw [hwhole, List.drop_length]
        rfl
      · rw [readHeader, hk, htake hs]
  | cons piece pieces ih =>
      rw [stopAt]
      by_cases hle : n ≤ raw.length
      · rw [if_pos hle]
        rcases hfound hs hle with ⟨k, hk⟩
        refine ⟨fun hlarge => by omega, fun _ => ⟨k, piece :: pieces, ?_, ?_, ?_⟩⟩
        · rw [htake hs, hk]
        · rw [← hs, List.drop_left]
        · rw [readHeader, hk, htake hs]
      · rw [if_neg hle]
        have hnone : headerEnd raw = none := by
          rw [← htake hs, headerEnd_take_eq_none]
          intro n' hn'
          rw [hn] at hn'
          cases hn'
          omega
        have hs' : (raw ++ piece) ++ pieces.flatten = s := by
          rw [← hs, List.flatten_cons, List.append_assoc]
        have hlength : (raw ++ piece).length = raw.length + piece.length := List.length_append
        rw [readHeader, hnone]
        by_cases hlarge : maxHeaderBytes < (raw ++ piece).length
        · have hstop := le_stopAt n pieces (raw.length + piece.length)
          simp only [if_pos hlarge]
          refine ⟨fun _ => trivial, fun hsmall => by omega⟩
        · simp only [if_neg hlarge]
          rw [← hlength]
          exact ih hs' (Nat.le_of_not_lt hlarge)

/-- The header loop on a stream without an end of the headers. -/
theorem readHeader_none (ending : ReadEnd) {s : CppString} (hn : headLength s = none)
    {pieces : List CppString} {raw : CppString} (hs : raw ++ pieces.flatten = s)
    (hraw : raw.length ≤ maxHeaderBytes) :
    readHeader ending pieces raw =
      if maxHeaderBytes < s.length then .error (str "request too large")
      else .error ending.headerError := by
  have hnone : ∀ {raw more : CppString}, raw ++ more = s → headerEnd raw = none := by
    rintro raw more hmore
    have htake : s.take raw.length = raw := by
      rw [← hmore]
      exact List.take_left
    rw [← htake, headerEnd_take_eq_none]
    intro n hsome
    rw [hn] at hsome
    contradiction
  induction pieces generalizing raw with
  | nil =>
      have hwhole : raw = s := by simpa using hs
      rw [readHeader, hnone hs, if_neg (by rw [← hwhole]; omega)]
  | cons piece pieces ih =>
      have hs' : (raw ++ piece) ++ pieces.flatten = s := by
        rw [← hs, List.flatten_cons, List.append_assoc]
      rw [readHeader, hnone hs]
      by_cases hlarge : maxHeaderBytes < (raw ++ piece).length
      · have hlength : (raw ++ piece).length ≤ s.length := by
          have hsum := congrArg List.length hs'
          rw [List.length_append] at hsum
          omega
        simp only [if_pos hlarge]
        rw [if_pos (by omega)]
      · simp only [if_neg hlarge]
        exact ih hs' (Nat.le_of_not_lt hlarge)

/-- How much of a stream has been read when an end of the headers is found. -/
def stoppingPoint (s : CppString) (pieces : List CppString) : Nat :=
  match headLength s with
  | some n => stopAt n pieces 0
  | none => s.length

/-- The pieces matter only for how much has been read when an end of the headers is
found. -/
theorem readHttpRequest_outcome (ending : ReadEnd) {s : CppString} {pieces : List CppString}
    (hs : pieces.flatten = s) :
    readHttpRequest ending pieces = outcome ending s (stoppingPoint s pieces) := by
  have hstart : [] ++ pieces.flatten = s := hs
  have hraw : ([] : CppString).length ≤ maxHeaderBytes := Nat.zero_le _
  rw [stoppingPoint, outcome, readHttpRequest]
  cases hn : headLength s with
  | none =>
      have hnone : headerEnd (s.take s.length) = none := by
        rw [headerEnd_take_eq_none]
        intro n hsome
        rw [hn] at hsome
        contradiction
      dsimp only
      rw [readHeader_none ending hn hstart hraw, hnone]
      by_cases hsize : maxHeaderBytes < s.length
      · rw [if_pos hsize, if_pos hsize]
      · rw [if_neg hsize, if_neg hsize]
  | some n =>
      rcases readHeader_some ending hn hstart hraw with ⟨hlarge, hsmall⟩
      dsimp only
      by_cases hsize : maxHeaderBytes < stopAt n pieces 0
      · rw [hlarge hsize, if_pos hsize]
      · rcases hsmall (Nat.le_of_not_lt hsize) with ⟨k, rest, hk, hrest, hread⟩
        rw [hread, if_neg hsize]
        dsimp only [List.length_nil] at hk hrest ⊢
        have hle := bodyOffset_le hk
        have htakeLength : (s.take (stopAt n pieces 0)).length ≤ stopAt n pieces 0 :=
          List.length_take_le _ _
        have hblock : (s.take (stopAt n pieces 0)).take k = s.take k := by
          rw [List.take_take, min_eq_left (by omega)]
        have hbody : (s.take (stopAt n pieces 0)).drop
            (bodyOffset (s.take (stopAt n pieces 0)) k) ++ rest.flatten =
              s.drop (bodyOffset (s.take (stopAt n pieces 0)) k) := by
          rw [hrest, ← List.drop_append_of_le_length hle.2, List.take_append_drop]
        rw [hk, hblock]
        dsimp only [finishRequest]
        cases parseHead (s.take k) with
        | error error => rfl
        | ok request =>
            simp only [readBody_eq, hbody]
            generalize s.drop (bodyOffset (s.take (stopAt n pieces 0)) k) = body
            by_cases hshort : body.length < contentLength request.headers
            · rw [if_pos hshort, if_pos hshort]
            · rw [if_neg hshort, if_neg hshort]

/-! ## The stopping points -/

/-- The largest piece that one call of `read` returns. -/
def bufferSize : Nat :=
  4096

/-- The stream is cut into these pieces. -/
structure CutInto (s : CppString) (pieces : List CppString) : Prop where
  flatten : pieces.flatten = s
  sizes : ∀ piece ∈ pieces, piece ≠ [] ∧ piece.length ≤ bufferSize

/-- Reading stops at most one buffer behind the end of the headers. -/
theorem stopAt_range {n : Nat} {pieces : List CppString} {count : Nat}
    (hsizes : ∀ piece ∈ pieces, piece.length ≤ bufferSize)
    (hlong : n ≤ count + pieces.flatten.length) (hcount : count < n) :
    n ≤ stopAt n pieces count ∧ stopAt n pieces count ≤ n + 4095 ∧
      stopAt n pieces count ≤ count + pieces.flatten.length := by
  induction pieces generalizing count with
  | nil =>
      rw [List.flatten_nil, List.length_nil] at hlong
      omega
  | cons piece pieces ih =>
      have hpiece := hsizes piece List.mem_cons_self
      have hrest : ∀ piece ∈ pieces, piece.length ≤ bufferSize := by
        intro piece' hpiece'
        exact hsizes piece' (List.mem_cons_of_mem _ hpiece')
      rw [List.flatten_cons, List.length_append] at hlong ⊢
      rw [stopAt, if_neg (by omega)]
      by_cases hreached : n ≤ count + piece.length
      · have hstop : stopAt n pieces (count + piece.length) = count + piece.length := by
          cases pieces with
          | nil => rfl
          | cons next pieces => rw [stopAt, if_pos hreached]
        rw [hstop]
        unfold bufferSize at hpiece
        omega
      · have hlong' : n ≤ count + piece.length + pieces.flatten.length := by omega
        have hmore := ih hrest hlong' (by omega)
        omega

/-- Pieces before which too little has come are passed over. -/
theorem stopAt_append {n : Nat} (before after : List CppString) {count : Nat}
    (h : count + before.flatten.length < n) :
    stopAt n (before ++ after) count = stopAt n after (count + before.flatten.length) := by
  induction before generalizing count with
  | nil => rfl
  | cons piece before ih =>
      rw [List.flatten_cons, List.length_append] at h
      rw [List.cons_append, stopAt, if_neg (by omega), ih (by omega), List.flatten_cons,
        List.length_append, Nat.add_assoc]

/-- A text byte by byte. -/
def byteByByte (s : CppString) : List CppString :=
  s.map fun ch => [ch]

/-- A text can come byte by byte. -/
theorem byteByByte_cut (s : CppString) : CutInto s (byteByByte s) where
  flatten := by
    induction s with
    | nil => rfl
    | cons ch s ih => simpa [byteByByte] using ih
  sizes := by
    intro piece hpiece
    rcases List.mem_map.mp hpiece with ⟨ch, -, rfl⟩
    refine ⟨List.cons_ne_nil _ _, ?_⟩
    rw [List.length_singleton]
    decide

/-- Every stopping point up to one buffer behind the end of the headers is reached by some
pieces. -/
theorem exists_cut {s : CppString} {n b : Nat} (hn : headLength s = some n) (hlow : n ≤ b)
    (hhigh : b ≤ n + 4095) (hlength : b ≤ s.length) :
    ∃ pieces, CutInto s pieces ∧ stoppingPoint s pieces = b := by
  have hpos := (headLength_le hn).1
  let middle := (s.drop (n - 1)).take (b - (n - 1))
  have hmiddle : middle.length = b - (n - 1) := by
    rw [List.length_take, List.length_drop]
    omega
  have hbefore := byteByByte_cut (s.take (n - 1))
  have hafter := byteByByte_cut (s.drop b)
  refine ⟨byteByByte (s.take (n - 1)) ++ middle :: byteByByte (s.drop b), ⟨?_, ?_⟩, ?_⟩
  · have hdrop : (s.drop (n - 1)).drop (b - (n - 1)) = s.drop b := by
      rw [List.drop_drop]
      congr 1
      omega
    rw [List.flatten_append, List.flatten_cons, hbefore.flatten, hafter.flatten, ← hdrop,
      List.take_append_drop, List.take_append_drop]
  · intro piece hpiece
    rcases List.mem_append.mp hpiece with hmem | hmem
    · exact hbefore.sizes piece hmem
    · rcases List.mem_cons.mp hmem with rfl | hmem
      · refine ⟨?_, ?_⟩
        · rw [← List.length_pos_iff]
          omega
        · unfold bufferSize
          omega
      · exact hafter.sizes piece hmem
  · have hcount : (byteByByte (s.take (n - 1))).flatten.length = n - 1 := by
      rw [hbefore.flatten, List.length_take]
      omega
    rw [stoppingPoint, hn]
    dsimp only
    rw [stopAt_append _ _ (by omega), hcount, stopAt, if_neg (by omega), hmiddle]
    have hsum : 0 + (n - 1) + (b - (n - 1)) = b := by omega
    rw [hsum]
    cases byteByByte (s.drop b) with
    | nil => rfl
    | cons piece pieces => rw [stopAt, if_pos hlow]

/-- The results for a stream with an end of the headers are the outcomes at the stopping
points up to one buffer behind it. -/
theorem readHttpRequest_range (ending : ReadEnd) {s : CppString} {n : Nat}
    (hn : headLength s = some n) (result : Except CppString HttpRequest) :
    (∃ pieces, CutInto s pieces ∧ readHttpRequest ending pieces = result) ↔
      ∃ b, n ≤ b ∧ b ≤ n + 4095 ∧ b ≤ s.length ∧ outcome ending s b = result := by
  constructor
  · rintro ⟨pieces, hcut, rfl⟩
    have hsizes : ∀ piece ∈ pieces, piece.length ≤ bufferSize := by
      intro piece hpiece
      exact (hcut.sizes piece hpiece).2
    have hlong : n ≤ 0 + pieces.flatten.length := by
      rw [hcut.flatten, Nat.zero_add]
      exact (headLength_le hn).2
    have hrange := stopAt_range hsizes hlong (headLength_le hn).1
    rw [hcut.flatten] at hrange
    refine ⟨stopAt n pieces 0, hrange.1, hrange.2.1, by omega, ?_⟩
    rw [readHttpRequest_outcome ending hcut.flatten, stoppingPoint, hn]
  · rintro ⟨b, hlow, hhigh, hlength, rfl⟩
    rcases exists_cut hn hlow hhigh hlength with ⟨pieces, hcut, hstop⟩
    exact ⟨pieces, hcut, by rw [readHttpRequest_outcome ending hcut.flatten, hstop]⟩

end SctpConformance
