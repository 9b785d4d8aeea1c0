import SctpConformance.Http.Cuts

/-!
# The size of a request

How many bytes of a request `ReadHttpRequest` holds after each of its reads.  The loop up
to the end of the headers stops with "request too large"; the loop over the body goes on
up to the announced length, whatever that is.

Main results:

- Definition `requestHeld`: what is held, read by read.
- Theorem `headerHeld_le`: the first loop holds at most one buffer more than its limit.
- Theorem `mem_bodyHeld_iff`: what the second loop holds.
- Theorem `sizeLimited_iff`: the limit covers the whole request exactly when no read beyond
  it is made while a part of the announced request is missing.
-/

namespace SctpConformance

/-! ## What is held -/

/-- The sizes of `raw` after the reads of the loop up to the end of the headers. -/
def headerHeld : List CppString → CppString → List Nat
  | [], _ => []
  | piece :: pieces, raw =>
      match headerEnd raw with
      | some _ => []
      | none =>
          (raw ++ piece).length ::
            if maxHeaderBytes < (raw ++ piece).length then [] else headerHeld pieces (raw ++ piece)

/-- The sizes of the header section and the body together, after the reads of the loop up to
the announced length. -/
def bodyHeld (headerSize length : Nat) : List CppString → CppString → List Nat
  | [], _ => []
  | piece :: pieces, body =>
      if body.length < length then
        (headerSize + (body ++ piece).length) ::
          bodyHeld headerSize length pieces (body ++ piece)
      else []

/-- The head of a request that goes on to the loop over the body: what has been read, and
the request so far. -/
def acceptedHead (ending : ReadEnd) (pieces : List CppString) :
    Option (HeaderRead × HttpRequest) :=
  match readHeader ending pieces [] with
  | .error _ => none
  | .ok read =>
      match parseHead (read.raw.take read.headerEnd) with
      | .error _ => none
      | .ok request => some (read, request)

/-- How many bytes of the request are held after each read of `ReadHttpRequest`. -/
def requestHeld (ending : ReadEnd) (pieces : List CppString) : List Nat :=
  headerHeld pieces [] ++
    match acceptedHead ending pieces with
    | none => []
    | some (read, request) =>
        bodyHeld (bodyOffset read.raw read.headerEnd) (contentLength request.headers) read.pieces
          (read.raw.drop (bodyOffset read.raw read.headerEnd))

/-- The size that a request announces: its header section and its content length. -/
def announcedSize (read : HeaderRead) (request : HttpRequest) : Nat :=
  bodyOffset read.raw read.headerEnd + contentLength request.headers

/-- The limit of the first loop, and one buffer. -/
def sizeLimit : Nat :=
  maxHeaderBytes + bufferSize

/-- The limit covers the whole request: no more is ever held, and a request that announces
more is refused. -/
structure SizeLimited (ending : ReadEnd) (pieces : List CppString) : Prop where
  held : ∀ n ∈ requestHeld ending pieces, n ≤ sizeLimit
  refused : ∀ read request, acceptedHead ending pieces = some (read, request) →
    sizeLimit < announcedSize read request →
      ∃ error, readHttpRequest ending pieces = .error error

/-- No read goes beyond the limit while a part of the request is missing. -/
def ArrivesWithin (size : Nat) (pieces : List CppString) : Prop :=
  ∀ front piece back, pieces = front ++ piece :: back → front.flatten.length < size →
    front.flatten.length + piece.length ≤ sizeLimit

/-! ## The first loop -/

/-- The first loop holds at most one buffer more than its limit. -/
theorem headerHeld_le {pieces : List CppString} (hsizes : ∀ piece ∈ pieces, piece.length ≤ bufferSize)
    {raw : CppString} (hraw : raw.length ≤ maxHeaderBytes) :
    ∀ n ∈ headerHeld pieces raw, n ≤ sizeLimit := by
  induction pieces generalizing raw with
  | nil => intro n hn; cases hn
  | cons piece pieces ih =>
      have hpiece := hsizes piece List.mem_cons_self
      intro n hn
      rw [headerHeld] at hn
      split at hn
      · cases hn
      · rcases List.mem_cons.mp hn with rfl | hn
        · rw [List.length_append, sizeLimit]
          omega
        · split at hn
          · cases hn
          · rename_i hle
            exact ih (fun p hp => hsizes p (List.mem_cons_of_mem _ hp)) (Nat.not_lt.mp hle) n hn

/-- The first loop has read the first pieces, and no more than its limit. -/
theorem readHeader_ok {ending : ReadEnd} {pieces : List CppString} {raw : CppString}
    {read : HeaderRead} (h : readHeader ending pieces raw = .ok read)
    (hraw : raw.length ≤ maxHeaderBytes) :
    headerEnd read.raw = some read.headerEnd ∧ read.raw.length ≤ maxHeaderBytes ∧
      ∃ front, pieces = front ++ read.pieces ∧ read.raw = raw ++ front.flatten := by
  induction pieces generalizing raw with
  | nil =>
      rw [readHeader] at h
      split at h
      · rename_i n hn
        cases h
        exact ⟨hn, hraw, [], rfl, by simp⟩
      · contradiction
  | cons piece pieces ih =>
      rw [readHeader] at h
      split at h
      · rename_i n hn
        cases h
        exact ⟨hn, hraw, [], rfl, by simp⟩
      · split at h
        · contradiction
        · rename_i hle
          obtain ⟨hend, hlength, front, hpieces, hread⟩ := ih h (Nat.not_lt.mp hle)
          refine ⟨hend, hlength, piece :: front, ?_, ?_⟩
          · rw [hpieces, List.cons_append]
          · rw [hread, List.flatten_cons, List.append_assoc]

/-- A head is accepted if it can be read and parsed. -/
theorem acceptedHead_eq_some {ending : ReadEnd} {pieces : List CppString} {read : HeaderRead}
    {request : HttpRequest} (h : acceptedHead ending pieces = some (read, request)) :
    readHeader ending pieces [] = .ok read ∧
      parseHead (read.raw.take read.headerEnd) = .ok request := by
  unfold acceptedHead at h
  split at h
  · contradiction
  · rename_i read' hread
    split at h
    · contradiction
    · rename_i request' hrequest
      cases h
      exact ⟨hread, hrequest⟩

/-- An accepted head is followed by the loop over the body. -/
theorem readHttpRequest_of_head {ending : ReadEnd} {pieces : List CppString} {read : HeaderRead}
    {request : HttpRequest} (h : acceptedHead ending pieces = some (read, request)) :
    readHttpRequest ending pieces =
      (readBody ending (contentLength request.headers) read.pieces
        (read.raw.drop (bodyOffset read.raw read.headerEnd))).map
          fun body => { request with body := body } := by
  obtain ⟨hread, hrequest⟩ := acceptedHead_eq_some h
  unfold readHttpRequest
  rw [hread]
  dsimp only
  rw [hrequest]
  dsimp only
  cases readBody ending (contentLength request.headers) read.pieces
    (read.raw.drop (bodyOffset read.raw read.headerEnd)) <;> rfl

/-! ## The second loop -/

/-- The second loop holds what has been read up to and with a piece, if something was
missing before it. -/
theorem mem_bodyHeld_iff {headerSize length : Nat} {pieces : List CppString} {body : CppString}
    {n : Nat} :
    n ∈ bodyHeld headerSize length pieces body ↔
      ∃ front piece back, pieces = front ++ piece :: back ∧
        body.length + front.flatten.length < length ∧
        n = headerSize + (body.length + front.flatten.length + piece.length) := by
  induction pieces generalizing body with
  | nil => simp [bodyHeld]
  | cons first pieces ih =>
      rw [bodyHeld]
      by_cases hmissing : body.length < length
      · rw [if_pos hmissing, List.mem_cons, ih]
        constructor
        · rintro (rfl | ⟨front, piece, back, rfl, hlt, rfl⟩)
          · exact ⟨[], first, pieces, rfl, by simpa using hmissing, by simp⟩
          · refine ⟨first :: front, piece, back, rfl, ?_, ?_⟩
            · simp only [List.length_append, List.flatten_cons] at hlt ⊢
              omega
            · simp only [List.length_append, List.flatten_cons]
              omega
        · rintro ⟨front, piece, back, hpieces, hlt, rfl⟩
          cases front with
          | nil =>
              cases hpieces
              exact .inl (by simp)
          | cons first' front =>
              cases hpieces
              refine .inr ⟨front, piece, back, rfl, ?_, ?_⟩
              · simp only [List.length_append, List.flatten_cons] at hlt ⊢
                omega
              · simp only [List.length_append, List.flatten_cons]
                omega
      · rw [if_neg hmissing]
        constructor
        · intro h
          cases h
        · rintro ⟨front, piece, back, -, hlt, -⟩
          omega

/-- The body of an accepted request has arrived: at once, or with the last piece that was
read. -/
theorem body_arrived {ending : ReadEnd} (headerSize : Nat) {length : Nat}
    {pieces : List CppString} {body result : CppString}
    (h : readBody ending length pieces body = .ok result) :
    length ≤ body.length ∨ ∃ n ∈ bodyHeld headerSize length pieces body, headerSize + length ≤ n := by
  induction pieces generalizing body with
  | nil =>
      rw [readBody] at h
      split at h
      · contradiction
      · rename_i hle
        exact .inl (Nat.not_lt.mp hle)
  | cons piece pieces ih =>
      rw [readBody] at h
      split at h
      · rename_i hmissing
        rw [bodyHeld, if_pos hmissing]
        rcases ih h with hle | ⟨n, hn, hle⟩
        · exact .inr ⟨_, List.mem_cons_self, Nat.add_le_add_left hle _⟩
        · exact .inr ⟨n, List.mem_cons_of_mem _ hn, hle⟩
      · rename_i hle
        exact .inl (Nat.not_lt.mp hle)

/-! ## The whole request -/

/-- What the second loop holds stays below the limit if and only if no read goes beyond it
while a part of the request is missing. -/
theorem bodyHeld_le_iff {ending : ReadEnd} {pieces : List CppString} {read : HeaderRead}
    {request : HttpRequest} (hsizes : ∀ piece ∈ pieces, piece.length ≤ bufferSize)
    (h : acceptedHead ending pieces = some (read, request)) :
    (∀ n ∈ bodyHeld (bodyOffset read.raw read.headerEnd) (contentLength request.headers)
        read.pieces (read.raw.drop (bodyOffset read.raw read.headerEnd)), n ≤ sizeLimit) ↔
      ArrivesWithin (announcedSize read request) pieces := by
  obtain ⟨hread, -⟩ := acceptedHead_eq_some h
  obtain ⟨hend, hlength, first, hpieces, hraw⟩ := readHeader_ok hread (Nat.zero_le _)
  have hoffset := (bodyOffset_le hend).2
  rw [List.nil_append] at hraw
  have hfirst : first.flatten.length = read.raw.length := by rw [hraw]
  constructor
  · rintro hheld front piece back rfl hmissing
    have hpiece := hsizes piece (List.mem_append_right _ List.mem_cons_self)
    have hlate : ∀ more, front = first ++ more → read.pieces = more ++ piece :: back →
        front.flatten.length + piece.length ≤ sizeLimit := by
      rintro more rfl hrest
      have hn := hheld _ (mem_bodyHeld_iff.mpr ⟨more, piece, back, hrest, ?_, rfl⟩)
      · simp only [List.length_drop, List.flatten_append, List.length_append] at hn ⊢
        omega
      · simp only [announcedSize, List.length_drop, List.flatten_append, List.length_append]
          at hmissing ⊢
        omega
    rcases List.append_eq_append_iff.mp hpieces with ⟨more, hfront, hback⟩ | ⟨more, hfront, hback⟩
    · cases more with
      | nil =>
          rw [List.append_nil] at hfront
          exact hlate [] (by rw [hfront, List.append_nil]) hback.symm
      | cons second more =>
          -- The piece was read by the first loop, which had not reached its limit before.
          cases hback
          rw [hfront] at hfirst
          simp only [List.flatten_append, List.length_append, List.flatten_cons] at hfirst
          rw [sizeLimit]
          omega
    · exact hlate more hfront hback
  · rintro hwithin n hn
    obtain ⟨front, piece, back, hrest, hmissing, rfl⟩ := mem_bodyHeld_iff.mp hn
    have hwhole : pieces = (first ++ front) ++ piece :: back := by
      rw [hpieces, hrest, List.append_assoc]
    have hle := hwithin _ _ _ hwhole ?_
    · simp only [List.length_drop, List.flatten_append, List.length_append] at hle ⊢
      omega
    · simp only [announcedSize, List.length_drop, List.flatten_append, List.length_append]
        at hmissing ⊢
      omega

/-- A stream that is no longer than the limit never goes beyond it. -/
theorem arrivesWithin_of_total {pieces : List CppString} (h : pieces.flatten.length ≤ sizeLimit)
    (size : Nat) : ArrivesWithin size pieces := by
  rintro front piece back rfl -
  rw [List.flatten_append, List.flatten_cons, List.length_append, List.length_append] at h
  omega

/-- For every stream, cut into reads of at most one buffer: the limit covers the whole
request if and only if its head is refused, or no read goes beyond the limit while a part
of the announced request is missing. -/
theorem sizeLimited_iff (ending : ReadEnd) {pieces : List CppString}
    (hsizes : ∀ piece ∈ pieces, piece.length ≤ bufferSize) :
    SizeLimited ending pieces ↔
      ∀ read request, acceptedHead ending pieces = some (read, request) →
        ArrivesWithin (announcedSize read request) pieces := by
  constructor
  · rintro ⟨hheld, -⟩ read request hhead
    rw [← bodyHeld_le_iff hsizes hhead]
    intro n hn
    apply hheld n
    rw [requestHeld, hhead]
    exact List.mem_append_right _ hn
  · intro hwithin
    have hsecond : ∀ read request, acceptedHead ending pieces = some (read, request) → _ :=
      fun read request hhead => (bodyHeld_le_iff hsizes hhead).mpr (hwithin read request hhead)
    refine ⟨?_, ?_⟩
    · intro n hn
      rw [requestHeld] at hn
      rcases List.mem_append.mp hn with hfirst | hn
      · exact headerHeld_le hsizes (Nat.zero_le _) n hfirst
      · split at hn
        · cases hn
        · rename_i read request hhead
          exact hsecond read request hhead n hn
    · intro read request hhead hlarge
      obtain ⟨hread, -⟩ := acceptedHead_eq_some hhead
      obtain ⟨hend, hlength, -⟩ := readHeader_ok hread (Nat.zero_le _)
      have hoffset := (bodyOffset_le hend).2
      rw [readHttpRequest_of_head hhead]
      cases hbody : readBody ending (contentLength request.headers) read.pieces
          (read.raw.drop (bodyOffset read.raw read.headerEnd)) with
      | error error => exact ⟨error, rfl⟩
      | ok body =>
          exfalso
          unfold announcedSize sizeLimit at hlarge
          rcases body_arrived (bodyOffset read.raw read.headerEnd) hbody with
            hle | ⟨n, hn, hle⟩
          · rw [List.length_drop] at hle
            omega
          · have hlimit := hsecond read request hhead n hn
            unfold sizeLimit at hlimit
            omega

/-- A health check is within the limit. -/
theorem sizeLimited_iff_healthCheck :
    SizeLimited .closed [str "GET /healthz HTTP/1.1\r\n\r\n"] :=
  (sizeLimited_iff .closed (by decide)).mpr fun _ _ _ => arrivesWithin_of_total (by decide) _

/-! ## A large body -/

/-- If the first piece ends the headers, nothing else is read before the body. -/
theorem readHeader_first {ending : ReadEnd} {head : CppString} {rest : List CppString} {n : Nat}
    (hend : headerEnd head = some n) (hlength : head.length ≤ maxHeaderBytes) :
    readHeader ending (head :: rest) [] = .ok { raw := head, headerEnd := n, pieces := rest } := by
  have hempty : headerEnd [] = none := rfl
  rw [readHeader, hempty]
  dsimp only
  rw [List.nil_append, if_neg (Nat.not_lt.mpr hlength)]
  cases rest with
  | nil => rw [readHeader, hend]
  | cons piece rest => rw [readHeader, hend]

/-- The head announces a body of more than a mebibyte. -/
def largeHead : CppString :=
  str "POST /v1/sessions HTTP/1.1\r\nContent-Length: 1052672\r\n\r\n"

/-- The request of this head. -/
def largeRequest : HttpRequest where
  method := str "POST"
  path := str "/v1/sessions"
  headers := [(str "content-length", str "1052672")]

/-- A body that comes in full buffers. -/
def blocks (count : Nat) : List CppString :=
  List.replicate count (List.replicate bufferSize 120)

/-- Every block has the size of the buffer. -/
theorem blocks_length (count : Nat) : (blocks count).flatten.length = count * bufferSize := by
  rw [blocks, List.length_flatten, List.map_replicate, List.length_replicate,
    List.sum_replicate_nat]

/-- The head is accepted, and the body is still to come. -/
theorem acceptedHead_large (body : List CppString) :
    acceptedHead .closed (largeHead :: body) =
      some ({ raw := largeHead, headerEnd := 51, pieces := body }, largeRequest) := by
  have hread : readHeader .closed (largeHead :: body) [] =
      .ok { raw := largeHead, headerEnd := 51, pieces := body } :=
    readHeader_first (by decide) (by decide +kernel)
  have hparse : parseHead (largeHead.take 51) = .ok largeRequest := by decide
  unfold acceptedHead
  rw [hread]
  dsimp only
  rw [hparse]

/-- The announced body is read, whatever its length. -/
theorem readHttpRequest_large {body : List CppString} (h : body.flatten.length = 1052672) :
    readHttpRequest .closed (largeHead :: body) =
      .ok { largeRequest with body := body.flatten } := by
  have hoffset : bodyOffset largeHead 51 = 55 := by decide
  have hannounced : contentLength largeRequest.headers = 1052672 := by decide
  have hdrop : largeHead.drop 55 = [] := by decide
  rw [readHttpRequest_of_head (acceptedHead_large body)]
  dsimp only
  rw [hoffset, hdrop, hannounced, readBody_eq, List.nil_append, h, if_neg (Nat.lt_irrefl _),
    List.take_of_length_le (Nat.le_of_eq h)]
  rfl

/-- Behind a head of 55 bytes comes a body of 257 full buffers, which alone is as much as the
limit: the request is held as a whole and accepted. -/
theorem large_request_accepted :
    (∀ piece ∈ largeHead :: blocks 257, piece ≠ [] ∧ piece.length ≤ bufferSize) ∧
      ¬SizeLimited .closed (largeHead :: blocks 257) ∧
      readHttpRequest .closed (largeHead :: blocks 257) =
        .ok { largeRequest with body := (blocks 257).flatten } := by
  have hlength : (blocks 257).flatten.length = 1052672 := blocks_length 257
  have haccepted := readHttpRequest_large hlength
  refine ⟨?_, ?_, haccepted⟩
  · intro piece hpiece
    rcases List.mem_cons.mp hpiece with rfl | hpiece
    · decide
    · have hfull := congrArg List.length (List.eq_of_mem_replicate hpiece)
      rw [List.length_replicate] at hfull
      exact ⟨List.length_pos_iff.mp (hfull ▸ by decide), hfull.le⟩
  · rintro ⟨-, hrefused⟩
    have hoffset : bodyOffset largeHead 51 = 55 := by decide
    have hannounced : contentLength largeRequest.headers = 1052672 := by decide
    have hlarge : sizeLimit <
        announcedSize { raw := largeHead, headerEnd := 51, pieces := blocks 257 } largeRequest := by
      rw [announcedSize, hoffset, hannounced]
      decide
    obtain ⟨error, herror⟩ := hrefused _ _ (acceptedHead_large _) hlarge
    rw [haccepted] at herror
    cases herror

end SctpConformance
