import SctpConformance.Http.Cuts

/-!
# Segmentation

When the result of `ReadHttpRequest` does not depend on how the stream is cut.  It does
in two cases: if the size limit lies within one buffer behind the end of the headers, and
if an empty line that ends in LF LF is followed, within one buffer, by one that ends in
CR LF CR LF and the two do not amount to the same request.

Main results:

- Definition `CutProof`: neither is the case.
- Theorem `readHttpRequest_cutProof`: exactly then all cuts have the same result.
- Theorem `readHttpRequest_not_cutProof`: a request that can be read in two ways.
-/

namespace SctpConformance

open Library

/-! ## The head of a request -/

/-- The headers of a block, whatever its request line is. -/
def headersOf (block : CppString) : List (CppString × CppString) :=
  (getLines block []).tail.foldl parseHeaderLine []

/-- The length of the body that the headers of a block announce. -/
def announced (block : CppString) : Nat :=
  contentLength (headersOf block)

/-- The first line is all up to the first newline. -/
theorem getLines_head (s line : CppString) :
    (getLines s line).head? =
      if line ++ s = [] then none else some (line ++ s.takeWhile (· ≠ 10)) := by
  induction s generalizing line with
  | nil =>
      rw [getLines]
      by_cases hline : line = []
      · simp [hline]
      · simp [hline]
  | cons ch s ih =>
      rw [getLines]
      by_cases hch : ch = 10
      · simp [hch]
      · rw [if_neg hch, ih]
        simp [hch]

/-- A block that is not empty is read by its first line. -/
theorem parseHead_eq {block : CppString} (hne : block ≠ []) :
    parseHead block =
      match parseRequestLine (stripReturn (block.takeWhile (· ≠ 10))) with
      | none => .error (str "invalid request line")
      | some (method, path) =>
          .ok { method := method, path := path, headers := headersOf block } := by
  have hhead := getLines_head block []
  rw [List.nil_append, if_neg hne, List.nil_append] at hhead
  unfold parseHead headersOf
  cases hlines : getLines block [] with
  | nil =>
      rw [hlines] at hhead
      contradiction
  | cons line lines =>
      rw [hlines] at hhead
      rw [← Option.some.inj hhead]
      rfl

/-- The first line ends at its newline. -/
theorem takeWhile_line (s t : CppString) :
    (s ++ 10 :: t).takeWhile (· ≠ 10) = s.takeWhile (· ≠ 10) := by
  induction s with
  | nil => simp
  | cons ch s ih =>
      by_cases hch : ch = 10
      · simp [hch]
      · simp [hch] at ih ⊢
        exact ih

/-! ## The two ends of the headers -/

/-- The body begins behind the four bytes that end the head. -/
theorem bodyOffset_crlf {raw : CppString} {p : Nat} (h : findText crlfEnd raw = some p) :
    bodyOffset raw p = p + 4 := by
  have hprefix := List.isPrefixOf_iff_prefix.mp (findText_isPrefixOf h)
  rw [List.prefix_iff_eq_take] at hprefix
  exact if_pos hprefix.symm

/-- It begins behind two newlines if these end the head. -/
theorem bodyOffset_lf {raw : CppString} {q : Nat} (h : findText lfEnd raw = some q) :
    bodyOffset raw q = q + 2 := by
  rcases List.isPrefixOf_iff_prefix.mp (findText_isPrefixOf h) with ⟨rest, hrest⟩
  rw [bodyOffset, ← hrest, if_neg]
  intro heq
  exact absurd (List.cons.inj heq).1 (by decide)

/-- A head that ends in time within the limit is parsed. -/
theorem outcome_crlf (ending : ReadEnd) {s : CppString} {p b : Nat}
    (hp : findText crlfEnd s = some p) (hread : p + 4 ≤ b) (hsize : b ≤ maxHeaderBytes) :
    outcome ending s b = finishRequest ending s p (p + 4) := by
  have hfound : findText crlfEnd (s.take b) = some p := by
    rw [findText_crlf_take, hp]
    exact if_pos hread
  have hend : headerEnd (s.take b) = some p := by
    rw [headerEnd, hfound]
  rw [outcome, if_neg (by omega), hend]
  dsimp only
  rw [bodyOffset_crlf hfound]

/-- So is one that ends with two newlines, before any other end. -/
theorem outcome_lf (ending : ReadEnd) {s : CppString} {q b : Nat}
    (hq : findText lfEnd s = some q) (hread : q + 2 ≤ b) (hsize : b ≤ maxHeaderBytes)
    (hcrlf : ∀ p, findText crlfEnd s = some p → b < p + 4) :
    outcome ending s b = finishRequest ending s q (q + 2) := by
  have hnone : findText crlfEnd (s.take b) = none := by
    rw [findText_crlf_take]
    cases hp : findText crlfEnd s with
    | none => rfl
    | some p =>
        have hlt := hcrlf p hp
        exact if_neg (by omega)
  have hfound : findText lfEnd (s.take b) = some q := by
    rw [findText_lf_take, hq]
    exact if_pos hread
  have hend : headerEnd (s.take b) = some q := by
    rw [headerEnd, hnone, hfound]
  rw [outcome, if_neg (by omega), hend]
  dsimp only
  rw [bodyOffset_lf hfound]

/-- A head beyond the limit is refused. -/
theorem outcome_large (ending : ReadEnd) (s : CppString) {b : Nat} (hsize : maxHeaderBytes < b) :
    outcome ending s b = .error (str "request too large") :=
  if_pos hsize

/-- Once the end of the headers is found, the size does not matter any more. -/
theorem finishRequest_ne_large (ending : ReadEnd) (s : CppString) (headEnd offset : Nat) :
    finishRequest ending s headEnd offset ≠ .error (str "request too large") := by
  have hmissing : str "missing request line" ≠ str "request too large" := by decide
  have hinvalid : str "invalid request line" ≠ str "request too large" := by decide
  have hbody : ending.bodyError ≠ str "request too large" := by
    cases ending <;> decide
  intro h
  unfold finishRequest at h
  split at h
  · rename_i error herror
    unfold parseHead at herror
    split at herror
    · cases herror
      exact hmissing (Except.error.inj h)
    · split at herror
      · cases herror
        exact hinvalid (Except.error.inj h)
      · contradiction
  · split at h
    · exact hbody (Except.error.inj h)
    · contradiction

/-! ## Two readings of one stream -/

/-- It makes no difference whether the headers end at LF LF or at a later CR LF CR LF: the
request line is invalid, or both bodies are announced longer than they are, or the lines
between the two ends change no header and the announced bytes behind the two ends are the
same. -/
def SameReading (s : CppString) (q p : Nat) : Prop :=
  0 < q ∧
    (parseRequestLine (stripReturn (s.takeWhile (· ≠ 10))) = none ∨
      (s.length < q + 2 + announced (s.take q) ∧ s.length < p + 4 + announced (s.take p)) ∨
      (headersOf (s.take q) = headersOf (s.take p) ∧
        p + 4 + announced (s.take p) ≤ s.length ∧
        (s.drop (q + 2)).take (announced (s.take q)) =
          (s.drop (p + 4)).take (announced (s.take q))))

/-- The stream in front of an end of the headers at LF LF and behind it. -/
theorem split_lf {s : CppString} {q : Nat} (hq : findText lfEnd s = some q) :
    ∃ rest, s = s.take q ++ 10 :: 10 :: rest := by
  rcases List.isPrefixOf_iff_prefix.mp (findText_isPrefixOf hq) with ⟨rest, hrest⟩
  refine ⟨rest, ?_⟩
  have hdrop : s.drop q = 10 :: 10 :: rest := hrest.symm
  rw [← hdrop, List.take_append_drop]

/-- The LF LF does not overlap a CR LF CR LF that ends behind it. -/
theorem lf_lt_crlf {s : CppString} {p q : Nat} (hp : findText crlfEnd s = some p)
    (hq : findText lfEnd s = some q) (hlt : q + 2 < p + 4) : q < p := by
  rcases List.isPrefixOf_iff_prefix.mp (findText_isPrefixOf hp) with ⟨rest, hrest⟩
  rcases List.isPrefixOf_iff_prefix.mp (findText_isPrefixOf hq) with ⟨rest', hrest'⟩
  by_contra hle
  have hcases : q = p ∨ q = p + 1 := by omega
  rcases hcases with rfl | rfl
  · rw [← hrest'] at hrest
    exact absurd (List.cons.inj hrest).1 (by decide)
  · have hdrop : s.drop (p + 1) = (s.drop p).drop 1 := by
      rw [List.drop_drop]
    rw [hdrop, ← hrest] at hrest'
    exact absurd (List.cons.inj (List.cons.inj hrest').2).1 (by decide)

/-- A request whose block is not empty is read by the first line of the stream. -/
theorem finishRequest_eq (ending : ReadEnd) {s : CppString} {headEnd offset : Nat}
    (hne : s.take headEnd ≠ [])
    (hline : (s.take headEnd).takeWhile (· ≠ 10) = s.takeWhile (· ≠ 10))
    (hoffset : offset ≤ s.length) :
    finishRequest ending s headEnd offset =
      match parseRequestLine (stripReturn (s.takeWhile (· ≠ 10))) with
      | none => .error (str "invalid request line")
      | some (method, path) =>
          if s.length < offset + announced (s.take headEnd) then .error ending.bodyError
          else
            .ok { method := method
                  path := path
                  headers := headersOf (s.take headEnd)
                  body := (s.drop offset).take (announced (s.take headEnd)) } := by
  have hshort : (s.drop offset).length < announced (s.take headEnd) ↔
      s.length < offset + announced (s.take headEnd) := by
    rw [List.length_drop]
    omega
  rw [finishRequest, parseHead_eq hne, hline]
  cases parseRequestLine (stripReturn (s.takeWhile (· ≠ 10))) with
  | none => rfl
  | some words =>
      rcases words with ⟨method, path⟩
      dsimp only
      by_cases hlong : s.length < offset + announced (s.take headEnd)
      · rw [if_pos hlong]
        exact if_pos (hshort.mpr hlong)
      · rw [if_neg hlong]
        exact if_neg (fun h => hlong (hshort.mp h))

/-- A block that ends at the first LF LF, or behind it, has the first line of the stream. -/
theorem firstLine_take {s : CppString} {q n : Nat} (hq : findText lfEnd s = some q) (hqn : q ≤ n) :
    (s.take n).takeWhile (· ≠ 10) = s.takeWhile (· ≠ 10) := by
  rcases split_lf hq with ⟨rest, hsplit⟩
  have hlength : q + 2 ≤ s.length := findText_length (by decide) hq
  have htake : (s.take q).length = q := by
    rw [List.length_take]
    omega
  have hwhole : s.takeWhile (· ≠ 10) = (s.take q).takeWhile (· ≠ 10) := by
    conv_lhs => rw [hsplit, takeWhile_line]
  rcases Nat.eq_or_lt_of_le hqn with rfl | hlt
  · exact hwhole.symm
  · -- the block contains the line feed at `q`
    have hsucc : n - q = n - q - 1 + 1 := by omega
    have hblock : s.take n = s.take q ++ 10 :: (10 :: rest).take (n - q - 1) := by
      conv_lhs => rw [hsplit, List.take_append, htake, hsucc, List.take_succ_cons]
      rw [List.take_take, min_eq_right hqn]
    rw [hblock, takeWhile_line, hwhole]

/-- Both ends of the headers give the same outcome behind a valid request line exactly if
both bodies are cut off, or the headers and the announced bytes are the same. -/
theorem sameOutcome_iff {s : CppString} {error : CppString} {method path : CppString} {q p : Nat}
    (hqp : q < p) :
    ((if s.length < q + 2 + announced (s.take q) then .error error
      else .ok { method := method
                 path := path
                 headers := headersOf (s.take q)
                 body := (s.drop (q + 2)).take (announced (s.take q)) } :
        Except CppString HttpRequest) =
      if s.length < p + 4 + announced (s.take p) then .error error
      else .ok { method := method
                 path := path
                 headers := headersOf (s.take p)
                 body := (s.drop (p + 4)).take (announced (s.take p)) }) ↔
    (s.length < q + 2 + announced (s.take q) ∧ s.length < p + 4 + announced (s.take p)) ∨
      (headersOf (s.take q) = headersOf (s.take p) ∧ p + 4 + announced (s.take p) ≤ s.length ∧
        (s.drop (q + 2)).take (announced (s.take q)) =
          (s.drop (p + 4)).take (announced (s.take q))) := by
  have hannounced : headersOf (s.take q) = headersOf (s.take p) →
      announced (s.take q) = announced (s.take p) := congrArg contentLength
  by_cases hshortQ : s.length < q + 2 + announced (s.take q)
  · rw [if_pos hshortQ]
    by_cases hshortP : s.length < p + 4 + announced (s.take p)
    · rw [if_pos hshortP]
      exact iff_of_true rfl (Or.inl ⟨hshortQ, hshortP⟩)
    · rw [if_neg hshortP]
      refine iff_of_false nofun ?_
      rintro (h | ⟨hheaders, -⟩)
      · exact hshortP h.2
      · have hsame := hannounced hheaders
        omega
  · rw [if_neg hshortQ]
    by_cases hshortP : s.length < p + 4 + announced (s.take p)
    · rw [if_pos hshortP]
      refine iff_of_false nofun ?_
      rintro (h | ⟨-, hlong, -⟩)
      · exact hshortQ h.1
      · omega
    · rw [if_neg hshortP]
      constructor
      · intro h
        have hrequest := Except.ok.inj h
        have hheaders : headersOf (s.take q) = headersOf (s.take p) :=
          congrArg HttpRequest.headers hrequest
        have hbody := congrArg HttpRequest.body hrequest
        dsimp only at hbody
        rw [← hannounced hheaders] at hbody
        exact Or.inr ⟨hheaders, by omega, hbody⟩
      · rintro (h | ⟨hheaders, -, hbody⟩)
        · exact absurd h.1 hshortQ
        · rw [hbody, hheaders, hannounced hheaders]

/-- When the two readings agree. -/
theorem finishRequest_same (ending : ReadEnd) {s : CppString} {p q : Nat}
    (hp : findText crlfEnd s = some p) (hq : findText lfEnd s = some q) (hlt : q + 2 < p + 4) :
    finishRequest ending s q (q + 2) = finishRequest ending s p (p + 4) ↔ SameReading s q p := by
  have hqp := lf_lt_crlf hp hq hlt
  have hpLength : p + 4 ≤ s.length := findText_length (by decide) hp
  have hneP : s.take p ≠ [] := by
    rw [← List.length_pos_iff, List.length_take]
    omega
  rw [finishRequest_eq ending hneP (firstLine_take hq hqp.le) hpLength]
  unfold SameReading
  by_cases hzero : q = 0
  · -- An empty block has no request line; the longer block begins with an empty line.
    subst hzero
    have hfirst : s.takeWhile (· ≠ 10) = [] := (firstLine_take hq le_rfl).symm
    have hinvalid : parseRequestLine (stripReturn []) = none := by decide
    have hmissing : finishRequest ending s 0 (0 + 2) = .error (str "missing request line") := rfl
    rw [hfirst, hinvalid, hmissing]
    constructor
    · intro h
      have htexts : str "missing request line" ≠ str "invalid request line" := by decide
      exact absurd (Except.error.inj h) htexts
    · intro h
      exact absurd h.1 (Nat.lt_irrefl 0)
  · have hneQ : s.take q ≠ [] := by
      rw [← List.length_pos_iff, List.length_take]
      omega
    rw [finishRequest_eq ending hneQ (firstLine_take hq le_rfl) (by omega)]
    have hpos : 0 < q := Nat.pos_of_ne_zero hzero
    cases parseRequestLine (stripReturn (s.takeWhile (· ≠ 10))) with
    | none => exact iff_of_true rfl ⟨hpos, Or.inl rfl⟩
    | some words =>
        rcases words with ⟨method, path⟩
        dsimp only
        rw [sameOutcome_iff hqp]
        constructor
        · intro h
          exact ⟨hpos, Or.inr h⟩
        · rintro ⟨-, hline | h⟩
          · contradiction
          · exact h

/-! ## Streams that can be cut anywhere -/

/-- The size limit does not lie within one buffer behind the first end of the headers, and
a CR LF CR LF within one buffer behind an LF LF amounts to the same request. -/
def CutProof (s : CppString) : Prop :=
  ∀ n, headLength s = some n → maxHeaderBytes < n ∨
    (min (n + 4095) s.length ≤ maxHeaderBytes ∧
      ∀ p q, findText crlfEnd s = some p → findText lfEnd s = some q → q + 2 < p + 4 →
        p + 4 ≤ n + 4095 → SameReading s q p)

/-- The head ends behind the four bytes if these come first. -/
theorem headLength_crlf {s : CppString} {p n : Nat} (hp : findText crlfEnd s = some p)
    (hn : headLength s = some n) (hq : ∀ q, findText lfEnd s = some q → p + 4 ≤ q + 2) :
    n = p + 4 := by
  rw [headLength, hp] at hn
  cases hfound : findText lfEnd s with
  | none =>
      rw [hfound] at hn
      exact (Option.some.inj hn).symm
  | some q =>
      rw [hfound] at hn
      have hle := hq q hfound
      have hmin := Option.some.inj hn
      omega

/-- It ends behind two newlines if these come first. -/
theorem headLength_lf {s : CppString} {q n : Nat} (hq : findText lfEnd s = some q)
    (hn : headLength s = some n) (hp : ∀ p, findText crlfEnd s = some p → q + 2 < p + 4) :
    n = q + 2 := by
  rw [headLength, hq] at hn
  cases hfound : findText crlfEnd s with
  | none =>
      rw [hfound] at hn
      exact (Option.some.inj hn).symm
  | some p =>
      rw [hfound] at hn
      have hlt := hp p hfound
      have hmin := Option.some.inj hn
      omega

/-- Within the size limit, the outcomes at the stopping points are all the same. -/
theorem outcome_eq (ending : ReadEnd) {s : CppString} {n b : Nat} (hn : headLength s = some n)
    (hsame : ∀ p q, findText crlfEnd s = some p → findText lfEnd s = some q → q + 2 < p + 4 →
      p + 4 ≤ n + 4095 → SameReading s q p)
    (hlow : n ≤ b) (hhigh : b ≤ n + 4095) (hsize : b ≤ maxHeaderBytes) :
    outcome ending s b = outcome ending s n := by
  cases hq : findText lfEnd s with
  | none =>
      cases hp : findText crlfEnd s with
      | none =>
          rw [headLength, hp, hq] at hn
          contradiction
      | some p =>
          have hhead := headLength_crlf hp hn (by rw [hq]; simp)
          rw [outcome_crlf ending hp (by omega) hsize, outcome_crlf ending hp (by omega) (by omega)]
  | some q =>
      by_cases hfirst : ∀ p, findText crlfEnd s = some p → q + 2 < p + 4
      · have hhead := headLength_lf hq hn hfirst
        have hstart : outcome ending s n = finishRequest ending s q (q + 2) := by
          apply outcome_lf ending hq (by omega) (by omega)
          intro p hp
          have hlt := hfirst p hp
          omega
        rw [hstart]
        by_cases hread : ∃ p, findText crlfEnd s = some p ∧ p + 4 ≤ b
        · rcases hread with ⟨p, hp, hle⟩
          rw [outcome_crlf ending hp hle hsize]
          exact ((finishRequest_same ending hp hq (hfirst p hp)).mpr
            (hsame p q hp hq (hfirst p hp) (by omega))).symm
        · apply outcome_lf ending hq (by omega) hsize
          intro p hp
          by_contra hle
          exact hread ⟨p, hp, by omega⟩
      · push Not at hfirst
        rcases hfirst with ⟨p, hp, hle⟩
        have hhead := headLength_crlf hp hn (by
          intro q' hq'
          rw [hq] at hq'
          cases hq'
          exact hle)
        rw [outcome_crlf ending hp (by omega) hsize, outcome_crlf ending hp (by omega) (by omega)]

/-- All cuts of a stream have the same result exactly if the stream is proof against
cutting. -/
theorem readHttpRequest_cutProof (ending : ReadEnd) (s : CppString) :
    (∀ pieces pieces', CutInto s pieces → CutInto s pieces' →
      readHttpRequest ending pieces = readHttpRequest ending pieces') ↔ CutProof s := by
  constructor
  · intro hall n hn
    -- Equal results for all cuts are equal outcomes at all stopping points.
    have houtcome : ∀ b b', n ≤ b → b ≤ n + 4095 → b ≤ s.length → n ≤ b' → b' ≤ n + 4095 →
        b' ≤ s.length → outcome ending s b = outcome ending s b' := by
      intro b b' hlow hhigh hlength hlow' hhigh' hlength'
      rcases (readHttpRequest_range ending hn _).mpr ⟨b, hlow, hhigh, hlength, rfl⟩ with
        ⟨pieces, hcut, hresult⟩
      rcases (readHttpRequest_range ending hn _).mpr ⟨b', hlow', hhigh', hlength', rfl⟩ with
        ⟨pieces', hcut', hresult'⟩
      rw [← hresult, ← hresult']
      exact hall pieces pieces' hcut hcut'
    have hnLength := (headLength_le hn).2
    by_cases hlarge : maxHeaderBytes < n
    · exact Or.inl hlarge
    · have hsize : min (n + 4095) s.length ≤ maxHeaderBytes := by
        by_contra hmin
        have hsame := houtcome n (maxHeaderBytes + 1) (by omega) (by omega) (by omega) (by omega)
          (by omega) (by omega)
        rw [outcome_large ending s (Nat.lt_succ_self _), outcome, if_neg hlarge] at hsame
        split at hsame
        · cases ending <;> exact absurd (Except.error.inj hsame) (by decide)
        · exact finishRequest_ne_large ending s _ _ hsame
      refine Or.inr ⟨hsize, ?_⟩
      intro p q hp hq hlt hnear
      have hpLength : p + 4 ≤ s.length := findText_length (by decide) hp
      have hhead : n = q + 2 := by
        apply headLength_lf hq hn
        intro p' hp'
        rw [hp] at hp'
        cases hp'
        exact hlt
      have hsame := houtcome n (p + 4) (by omega) (by omega) (by omega) (by omega) hnear hpLength
      rw [outcome_crlf ending hp (Nat.le_refl _) (by omega)] at hsame
      rw [outcome_lf ending hq (by omega) (by omega)] at hsame
      · exact (finishRequest_same ending hp hq hlt).mp hsame
      · intro p' hp'
        rw [hp] at hp'
        cases hp'
        omega
  · intro hproof pieces pieces' hcut hcut'
    cases hn : headLength s with
    | none =>
        rw [readHttpRequest_outcome ending hcut.flatten, readHttpRequest_outcome ending hcut'.flatten,
          stoppingPoint, stoppingPoint, hn]
    | some n =>
        have hconst : ∀ b, n ≤ b → b ≤ n + 4095 → b ≤ s.length →
            outcome ending s b = outcome ending s n := by
          intro b hlow hhigh hlength
          rcases hproof n hn with hlarge | ⟨hsize, hsame⟩
          · rw [outcome_large ending s hlarge, outcome_large ending s (by omega)]
          · exact outcome_eq ending hn hsame hlow hhigh (by omega)
        rcases (readHttpRequest_range ending hn _).mp ⟨pieces, hcut, rfl⟩ with
          ⟨b, hlow, hhigh, hlength, hb⟩
        rcases (readHttpRequest_range ending hn _).mp ⟨pieces', hcut', rfl⟩ with
          ⟨b', hlow', hhigh', hlength', hb'⟩
        rw [← hb, ← hb', hconst b hlow hhigh hlength, hconst b' hlow' hhigh' hlength']

/-- A request with LF line ends, whose body of six bytes contains CR LF CR LF. -/
def lfHead : CppString :=
  str "POST /v1/sessions HTTP/1.1\nContent-Length: 6\n\n"

/-- A body that itself contains the bytes that end a head. -/
def crlfBody : CppString :=
  str "\x7b\x7d\r\n\r\n"

/-- In one piece the request is waited for in vain, in two pieces it is read. -/
theorem readHttpRequest_not_cutProof :
    CutInto (lfHead ++ crlfBody) [lfHead ++ crlfBody] ∧
    CutInto (lfHead ++ crlfBody) [lfHead, crlfBody] ∧
    readHttpRequest .timedOut [lfHead ++ crlfBody] =
      .error (str "timed out reading HTTP body") ∧
    readHttpRequest .timedOut [lfHead, crlfBody] =
      .ok { method := str "POST"
            path := str "/v1/sessions"
            body := crlfBody
            headers := [(str "content-length", str "6")] } := by
  refine ⟨⟨rfl, ?_⟩, ⟨rfl, ?_⟩, ?_, ?_⟩
  · decide
  · decide
  · decide
  · decide

end SctpConformance
