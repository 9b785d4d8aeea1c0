import SctpConformance.Http.IndexPage

/-!
# The cards of the index page

What a reader of the page finds in it: the headings of the sections, and the cards with the
sessions that they are about.

Main results:

- Definition `landmarks`: the headings, the cards and their titles, read from the page.
- Theorem `shows_renderCard`: a card is read as one card, with the session as its title.
- Theorem `indexPage_markup`: names do not change the markup of the page, and each
  session is on one card, in the section that it belongs to.
-/

namespace SctpConformance

open Library

variable {c : Catalog}

/-! ## Reading the page -/

/-- What a reader looks for. -/
inductive Landmark where
  | heading (title : CppString)
  | card
  | title (id : CppString)
  | cardEnd
deriving DecidableEq

/-- The tags whose text is a title. -/
def titled (tag : CppString) : Option (CppString → Landmark) :=
  if tag = str "h2 class=\"section-title\"" then some .heading
  else if tag = str "h2 class=\"session-title\"" then some .title
  else none

/-- The tags around a card. -/
def sign (tag : CppString) : Option Landmark :=
  if tag = str "/article" then some .cardEnd
  else if (str "article ").isPrefixOf tag then some .card
  else none

/-- An element of the page, as a reader takes it. -/
def readElement (element : CppString × CppString) : Option Landmark :=
  match titled element.1 with
  | some landmark => some (landmark (unescape element.2))
  | none => sign element.1

/-- The headings, the cards and their titles, in the order of the page. -/
def landmarks (page : CppString) : List Landmark :=
  (elements page).filterMap readElement

/-- A part of the page that shows this, whatever comes behind it. -/
def Shows (text : CppString) (shown : List Landmark) : Prop :=
  ∀ rest, landmarks (text ++ rest) = shown ++ landmarks rest

/-- Two texts show their landmarks one after the other. -/
theorem Shows.append {front back : CppString} {shown shown' : List Landmark}
    (hfront : Shows front shown) (hback : Shows back shown') :
    Shows (front ++ back) (shown ++ shown') := by
  intro rest
  rw [List.append_assoc, hfront, hback, List.append_assoc]

/-- A part that shows nothing, and what comes behind it. -/
theorem Shows.behind {front back : CppString} {shown : List Landmark}
    (hfront : Shows front []) (hback : Shows back shown) : Shows (front ++ back) shown :=
  hfront.append hback

/-- Parts that are read one by one. -/
theorem shows_flatten {α : Type} {items : List α} {text : α → CppString}
    {shown : α → List Landmark} (h : ∀ item ∈ items, Shows (text item) (shown item)) :
    Shows (items.map text).flatten (items.flatMap shown) := by
  induction items with
  | nil => exact fun rest => rfl
  | cons item items ih =>
      rw [List.map_cons, List.flatten_cons, List.flatMap_cons]
      exact (h item List.mem_cons_self).append
        (ih fun other hother => h other (List.mem_cons_of_mem item hother))

/-! ## Texts and tags -/

/-- A text without tags shows nothing. -/
theorem shows_text {text : CppString} (h : (60 : UInt8) ∉ text) : Shows text [] := by
  intro rest
  rw [landmarks, elements_text h]
  rfl

/-- An escaped text shows no landmark. -/
theorem shows_htmlEscape (value : CppString) : Shows (htmlEscape value) [] :=
  shows_text fun hmem => (plain_htmlEscape value 60 hmem).1 rfl

/-- A piece behind the beginning of a tag: the whole tag, and its text is no title. -/
def settled (piece : CppString) : Bool :=
  match splitFirst 62 piece with
  | some (tag, _) => (titled tag).isNone
  | none => false

/-- The last tag of a text does not care about what comes behind it. -/
def whole (text : CppString) : Bool :=
  (text.splitOn 60).tail.getLast?.all settled

/-- A tag whose text is no title. -/
theorem landmarks_tag {tag text : CppString} (htag : (60 : UInt8) ∉ tag) (hend : (62 : UInt8) ∉ tag)
    (htitled : titled tag = none) (htext : (60 : UInt8) ∉ text) :
    Shows (60 :: (tag ++ 62 :: text)) (sign tag).toList := by
  intro rest
  have hread : ∀ behind, readElement (tag, behind) = sign tag := by
    intro behind
    simp only [readElement, htitled]
  rw [landmarks, elements_tag htag hend htext, List.filterMap_cons, hread]
  cases sign tag <;> rfl

/-- A piece that the next tag ends. -/
theorem elements_piece {piece : CppString} (h : (60 : UInt8) ∉ piece) (rest : CppString) :
    elements (60 :: piece ++ 60 :: rest) =
      (splitFirst 62 piece).toList ++ elements (60 :: rest) := by
  have hrest : ∀ text : CppString, (60 :: text).splitOn 60 = [] :: text.splitOn 60 := by
    intro text
    rw [List.splitOn_cons_eq_if_modifyHead, if_pos (by rfl)]
  have hpiece := List.splitOn_append_cons_self_of_not_mem h rest
  simp only [elements, List.cons_append, hrest, List.tail_cons, hpiece, List.filterMap_cons]
  cases splitFirst 62 piece <;> rfl

/-- The pieces of a text are read one by one, up to the last one. -/
theorem landmarks_pieces {pieces : List CppString} (hpieces : ∀ piece ∈ pieces, (60 : UInt8) ∉ piece)
    (hlast : pieces.getLast?.all settled = true) :
    Shows (pieces.map fun piece => 60 :: piece).flatten
      (landmarks (pieces.map fun piece => 60 :: piece).flatten) := by
  induction pieces with
  | nil => exact fun rest => rfl
  | cons piece pieces ih =>
      have hpiece := hpieces piece List.mem_cons_self
      cases pieces with
      | nil =>
          simp only [List.getLast?_singleton, Option.all_some, settled] at hlast
          simp only [List.map_cons, List.map_nil, List.flatten_cons, List.flatten_nil,
            List.append_nil]
          split at hlast
          · rename_i tag text hsplit
            rcases splitFirst_eq_some_iff.mp hsplit with ⟨rfl, hend⟩
            rw [List.mem_append, List.mem_cons, not_or, not_or] at hpiece
            have hshows := landmarks_tag hpiece.1 hend (Option.isNone_iff_eq_none.mp hlast)
              hpiece.2.2
            have hself := hshows []
            rw [List.append_nil] at hself
            have hnil : landmarks [] = [] := rfl
            rw [hself, hnil, List.append_nil]
            exact hshows
          · contradiction
      | cons next pieces =>
          intro rest
          have hbehind := ih (fun other hother => hpieces other (List.mem_cons_of_mem piece hother))
            (by simpa using hlast) rest
          simp only [List.map_cons, List.flatten_cons, List.cons_append, List.append_assoc]
            at hbehind ⊢
          have hfront : ∀ text, landmarks (60 :: (piece ++ 60 :: text)) =
              ((splitFirst 62 piece).toList).filterMap readElement ++ landmarks (60 :: text) := by
            intro text
            rw [landmarks, landmarks, ← List.filterMap_append]
            exact congrArg _ (elements_piece hpiece text)
          rw [hfront, hfront, hbehind, List.append_assoc]

/-- A text that ends with a tag or behind it is read on its own. -/
theorem shows_whole {text : CppString} (h : whole text = true) : Shows text (landmarks text) := by
  rcases eq_append_pieces text with ⟨front, pieces, hsplit, hfront, hpieces, htext⟩
  rw [whole, hsplit, List.tail_cons] at h
  have hshows := (shows_text hfront).behind (landmarks_pieces hpieces h)
  have hself : landmarks text = landmarks (pieces.map fun piece => 60 :: piece).flatten := by
    rw [htext, landmarks, elements_text hfront, landmarks]
  rw [hself, htext]
  exact hshows

/-- A title, which ends with the next tag. -/
theorem shows_titled {tag text back : CppString} {landmark : CppString → Landmark}
    {shown : List Landmark} (htag : (60 : UInt8) ∉ tag) (hend : (62 : UInt8) ∉ tag)
    (htitled : titled tag = some landmark) (htext : (60 : UInt8) ∉ text)
    (hback : Shows (60 :: back) shown) :
    Shows (60 :: (tag ++ 62 :: text) ++ 60 :: back) (landmark (unescape text) :: shown) := by
  intro rest
  have hread : readElement (tag, text ++ (60 :: back ++ rest).takeWhile (· ≠ 60)) =
      some (landmark (unescape text)) := by
    rw [List.cons_append, List.takeWhile_cons_of_neg (by decide), List.append_nil]
    simp only [readElement, htitled]
  rw [List.append_assoc, landmarks, elements_tag htag hend htext,
    List.filterMap_cons_some hread]
  exact congrArg _ (hback rest)

/-! ## A card -/

/-- The literal parts of the page. -/
theorem shows_literal {text : CppString} {shown : List Landmark}
    (h : whole text = true ∧ landmarks text = shown) : Shows text shown :=
  h.2 ▸ shows_whole h.1

/-- The link to the dashboard shows nothing, whatever its path is. -/
theorem shows_link (path : CppString) :
    Shows (str "<a class=\"session-link\" href=\"" ++ htmlEscape path ++
      str "\">Open dashboard</a>") [] := by
  have hplain := plain_htmlEscape path
  have hopening : str "<a class=\"session-link\" href=\"" =
      60 :: 97 :: 32 :: (str "<a class=\"session-link\" href=\"").drop 3 := by decide
  have hfree : ∀ ch ∈ 97 :: 32 :: (str "<a class=\"session-link\" href=\"").drop 3,
      ch ≠ 60 ∧ ch ≠ 62 := by decide
  have hclosing : str "\">Open dashboard</a>" = 34 :: 62 :: str "Open dashboard" ++ str "</a>" := by
    decide
  generalize hlead : (str "<a class=\"session-link\" href=\"").drop 3 = lead at hopening hfree
  have htag : ∀ ch ∈ 97 :: 32 :: (lead ++ htmlEscape path ++ [34]), ch ≠ 60 ∧ ch ≠ 62 := by
    intro ch hch
    rw [← List.cons_append, ← List.cons_append, ← List.cons_append, ← List.cons_append,
      List.mem_append, List.mem_append, List.mem_singleton] at hch
    rcases hch with (hch | hch) | rfl
    · exact hfree ch hch
    · exact ⟨(hplain ch hch).1, (hplain ch hch).2.1⟩
    · decide
  have hother : ∀ name : String, (str name).take 2 ≠ [97, 32] →
      97 :: 32 :: (lead ++ htmlEscape path ++ [34]) ≠ str name := by
    intro name hname heq
    exact hname (by rw [← heq]; rfl)
  have htitled : titled (97 :: 32 :: (lead ++ htmlEscape path ++ [34])) = none := by
    rw [titled, if_neg (hother _ (by decide)), if_neg (hother _ (by decide))]
  have hsign : sign (97 :: 32 :: (lead ++ htmlEscape path ++ [34])) = none := by
    have harticle : str "article " = 97 :: 114 :: (str "article ").drop 2 := by decide
    rw [sign, if_neg (hother _ (by decide)), harticle]
    rfl
  have htext : (60 : UInt8) ∉ str "Open dashboard" := by decide
  have hlink := landmarks_tag (fun hmem => (htag 60 hmem).1 rfl)
    (fun hmem => (htag 62 hmem).2 rfl) htitled htext
  have hend : Shows (str "</a>") [] := shows_literal (by decide)
  rw [hsign] at hlink
  rw [hopening, hclosing]
  have hparts := hlink.behind hend
  simpa only [List.cons_append, List.append_assoc, List.nil_append] using hparts

/-- What a card shows: one card with one title. -/
def SessionCard.shown (card : SessionCard) : List Landmark :=
  [.card, .title card.id, .cardEnd]

/-- The title of a card is the session. -/
theorem shows_cardTitle (card : SessionCard) :
    Shows (str "<h2 class=\"session-title\">" ++ htmlEscape card.id ++ str "</h2>")
      [.title card.id] := by
  have hopening : str "<h2 class=\"session-title\">" =
      60 :: (str "h2 class=\"session-title\"" ++ [62]) := by decide
  have hclosing : str "</h2>" = 60 :: str "/h2>" := by decide
  have hend : Shows (60 :: str "/h2>") [] := by
    rw [← hclosing]
    exact shows_literal (by decide)
  have htitled : titled (str "h2 class=\"session-title\"") = some .title := by
    rw [titled, if_neg (by decide), if_pos rfl]
  have hshows := shows_titled (by decide) (by decide) htitled
    (fun hmem => (plain_htmlEscape card.id 60 hmem).1 rfl) hend
  rw [unescape_htmlEscape] at hshows
  rw [hopening, hclosing]
  simpa only [List.cons_append, List.append_assoc, List.nil_append] using hshows

/-- A card is read as one card with the session as its title. -/
theorem shows_renderCard (card : SessionCard) : Shows (renderCard card) card.shown := by
  have hliteral : ∀ text : String, whole (str text) = true ∧ landmarks (str text) = [] →
      Shows (str text) [] := fun _ => shows_literal
  have hescape := shows_htmlEscape
  have harticle : Shows (str "<article class=\"session-card\" data-state=\"" ++
      (stateText card.active ++ str "\">")) [.card] := by
    refine shows_literal ?_
    cases card.active with
    | false => decide
    | true => decide
  have hpill : Shows (str "<div class=\"session-pill\" data-state=\"" ++
      (stateText card.active ++ (str "\">" ++ stateText card.active))) [] := by
    refine shows_literal ?_
    cases card.active with
    | false => decide
    | true => decide
  have hend : Shows (str "</article>") [.cardEnd] := shows_literal (by decide)
  have htitle := shows_cardTitle card
  have hlink := shows_link card.dashboardPath
  have hlast := hlink.behind hend
  -- The pieces behind the title, from the last one to the first.
  have hrows := (hescape (orElse card.createdAt "unknown")).behind
    ((hliteral "</span></div>" (by decide)).behind
      ((hliteral "<div class=\"row\"><span class=\"label\">Feature</span><span class=\"value\">"
        (by decide)).behind
        ((hescape (if card.active then card.activeFeatureId else str "none")).behind
          ((hliteral "</span></div>" (by decide)).behind
            ((hliteral "</div>" (by decide)).behind hlast)))))
  have hbody := (hliteral "</div>" (by decide)).behind ((hliteral "</div>" (by decide)).behind
    ((hliteral "<div class=\"session-body\">" (by decide)).behind
      ((hliteral "<div class=\"row\"><span class=\"label\">Created</span><span class=\"value\">"
        (by decide)).behind hrows)))
  have hmeta := (hliteral "<div class=\"session-meta\">" (by decide)).behind
    ((hliteral "<span>" (by decide)).behind
      ((hescape (orElse card.agentName "unknown-agent")).behind
        ((hliteral "</span>" (by decide)).behind ((hliteral "<span>" (by decide)).behind
          ((hescape (orElse card.environmentName "unknown-environment")).behind
            ((hliteral "</span>" (by decide)).behind ((hliteral "</div>" (by decide)).behind
              ((hliteral "</div>" (by decide)).behind (hpill.behind hbody)))))))))
  have hcard := harticle.append ((hliteral "<div class=\"session-card-top\">" (by decide)).behind
    ((hliteral "<div>" (by decide)).behind (htitle.append hmeta)))
  unfold renderCard SessionCard.shown
  simpa only [List.append_assoc, List.cons_append, List.nil_append] using hcard

/-- The cards of a section, one after another. -/
theorem shows_renderCards (cards : List SessionCard) (emptyText : CppString) :
    Shows (renderCards cards emptyText) (cards.flatMap SessionCard.shown) := by
  have hclosing : Shows (str "</div>") [] := shows_literal (by decide)
  unfold renderCards
  split
  · rename_i hempty
    rw [hempty, List.flatMap_nil, List.append_assoc]
    have hopening : Shows (str "<div class=\"empty-state\">") [] := shows_literal (by decide)
    exact hopening.behind ((shows_htmlEscape _).behind hclosing)
  · have hopening : Shows (str "<div class=\"session-grid\">") [] := shows_literal (by decide)
    have hcards := shows_flatten fun card (_ : card ∈ cards) => shows_renderCard card
    have hgrid := hopening.behind (hcards.append hclosing)
    rwa [List.append_nil, ← List.append_assoc] at hgrid

/-! ## The page -/

/-- The parts of the page around the cards, with the headings of the two sections. -/
theorem landmarks_indexLines :
    (∀ lines ∈ [indexOpening, indexHero, indexKnown, indexClosing],
      whole (htmlLines lines) = true ∧ landmarks (htmlLines lines) = []) ∧
    (whole (htmlLines indexActive) = true ∧
      landmarks (htmlLines indexActive) = [.heading (str "Active Sessions")]) ∧
    whole (htmlLines indexOther) = true ∧
      landmarks (htmlLines indexOther) = [.heading (str "Other Sessions")] := by
  decide +kernel

/-- The page shows the cards of its sections under their headings. -/
theorem shows_indexHtml (active other : List SessionCard) :
    landmarks (indexHtml active other) =
      .heading (str "Active Sessions") :: active.flatMap SessionCard.shown ++
        .heading (str "Other Sessions") :: other.flatMap SessionCard.shown := by
  have hlines : ∀ lines ∈ [indexOpening, indexHero, indexKnown, indexClosing],
      Shows (htmlLines lines) [] := fun lines hmem =>
    shows_literal (landmarks_indexLines.1 lines hmem)
  have hstyle : Shows (htmlLines indexStyle) [] := shows_text lt_not_mem_indexStyle
  have hdecimal : ∀ n, Shows (decimal n) [] := fun n => shows_text (lt_not_mem_decimal n)
  have hactive := shows_renderCards active (str "No sessions are active right now.")
  have hother := shows_renderCards other
    (str "No additional sessions are currently stored in memory.")
  have hsections := (shows_literal landmarks_indexLines.2.1).append (hactive.append
    ((shows_literal landmarks_indexLines.2.2).append
      (hother.append (hlines indexClosing (by simp)))))
  have hpage := (hlines indexOpening (by simp)).behind (hstyle.behind
    ((hlines indexHero (by simp)).behind ((hdecimal active.length).behind
      ((hlines indexKnown (by simp)).behind
        ((hdecimal (active.length + other.length)).behind hsections)))))
  have hread := hpage []
  have hnil : landmarks [] = [] := rfl
  rw [List.append_nil, hnil, List.append_nil] at hread
  unfold indexHtml
  simpa only [List.append_assoc, List.cons_append, List.nil_append, List.append_nil] using hread

/-- What the page shows of a session: one card with the session as its title. -/
def Session.shown (session : Session c) : List Landmark :=
  [.card, .title session.id, .cardEnd]

/-- Escaped texts hold no markup bytes and are read back.  Names change no tag and no
attribute boundary of the index page, for any number of sessions.  A reader of the page finds
each session on one card, under the heading of the active ones if a feature of it is active, and
under the other one if not. -/
theorem indexPage_markup (order : NewestFirst) :
    (∀ value, Plain (htmlEscape value) ∧ unescape (htmlEscape value) = value) ∧
    (∀ sessions sessions' : List (Session c), List.Forall₂ Session.Renamed sessions sessions' →
      skeleton (sessionIndexHtml order sessions) = skeleton (sessionIndexHtml order sessions')) ∧
    ∀ sessions : List (Session c), ∃ active other : List (Session c),
      (active ++ other).Perm sessions ∧
      (∀ session ∈ active, session.activeFeatureId ≠ []) ∧
      (∀ session ∈ other, session.activeFeatureId = []) ∧
      landmarks (sessionIndexHtml order sessions) =
        .heading (str "Active Sessions") :: active.flatMap Session.shown ++
          .heading (str "Other Sessions") :: other.flatMap Session.shown := by
  refine ⟨fun value => ⟨plain_htmlEscape value, unescape_htmlEscape value⟩,
    fun _ _ h => (alike_sessionIndexHtml order h).skeleton_eq, fun sessions => ?_⟩
  rcases sessionIndexHtml_cards order sessions with ⟨active, other, hperm, hactive, hother, hpage⟩
  refine ⟨active, other, hperm, hactive, hother, ?_⟩
  rw [hpage, shows_indexHtml, List.flatMap_map, List.flatMap_map]
  rfl

/-- An agent name that closes its tag and opens another one. -/
theorem indexPage_markup_quoted :
    skeleton (sessionIndexHtml (c := sampleCatalog) .stable
      [{ id := str "1", agentName := str "\"></span><script>", environmentName := [],
         createdAt := 0 }]) =
    skeleton (sessionIndexHtml (c := sampleCatalog) .stable
      [{ id := str "1", agentName := [], environmentName := [], createdAt := 0 }]) :=
  (indexPage_markup .stable).2.1 _ _ (.cons rfl .nil)

end SctpConformance
