import SctpConformance.Library.Markup
import SctpConformance.Server.Routing
import SctpConformance.Json.Emitted
import Mathlib.Data.List.Induction

/-!
# The index page

`html_escape` and `SessionIndexHtml`: one card for each session, those with an active
feature in the first section, the newest first.  `std::sort` may put sessions of one
time in any order, but it goes by the times alone.

Main results:

- Theorem `unescape_htmlEscape`: escaped texts are read back.
- Theorem `NewestFirst.sort_perm`: sorting keeps the cards.
- Theorem `alike_renderCard`: the names in a card leave no trace in its markup.
- Theorem `alike_sessionIndexHtml`: names do not change the markup of the page.
- Theorem `sessionIndexHtml_cards`: the sessions that each section is given.
-/

namespace SctpConformance

open Library

variable {c : Catalog}

/-! ## Escapes -/

/-- The `switch` of `html_escape`. -/
def htmlEscapeByte (ch : UInt8) : CppString :=
  if ch = 38 then str "&amp;"
  else if ch = 60 then str "&lt;"
  else if ch = 62 then str "&gt;"
  else if ch = 34 then str "&quot;"
  else if ch = 39 then str "&#39;"
  else [ch]

/-- A text without the characters that mean something in HTML. -/
def htmlEscape (value : CppString) : CppString :=
  value.flatMap htmlEscapeByte

/-! ## The order of the cards -/

/-- What `std::sort` does with the newest first: the positions of the values, given
their times. -/
structure NewestFirst where
  arrange : List TimePoint → List Nat
  perm : ∀ times, (arrange times).Perm (List.range times.length)
  sorted : ∀ times, ((arrange times).map fun i => times.getD i 0).Pairwise (· ≥ ·)

/-- `std::sort` with the comparison `newest_first`. -/
def NewestFirst.sort {α : Type} (order : NewestFirst) (time : α → TimePoint) (values : List α) :
    List α :=
  (order.arrange (values.map time)).filterMap fun i => values[i]?

/-! ## The page -/

/-- What the page shows of a session. -/
structure SessionCard where
  id : CppString
  agentName : CppString
  environmentName : CppString
  createdAt : CppString
  activeFeatureId : CppString
  dashboardPath : CppString
  createdAtPoint : TimePoint

/-- The card of a session. -/
def Session.card (session : Session c) : SessionCard where
  id := session.id
  agentName := session.agentName
  environmentName := session.environmentName
  createdAt := isoTime session.createdAt
  activeFeatureId := session.activeFeatureId
  dashboardPath := dashboardPath session.id
  createdAtPoint := session.createdAt

/-- A session is active while one of its features is. -/
def SessionCard.active (card : SessionCard) : Bool :=
  card.activeFeatureId ≠ []

/-- The text, or another one if it is empty. -/
def orElse (text : CppString) (instead : String) : CppString :=
  if text = [] then str instead else text

/-- The state in words. -/
def stateText (active : Bool) : CppString :=
  if active then str "active" else str "idle"

/-- The body of the loop of `render_cards`. -/
def renderCard (card : SessionCard) : CppString :=
  str "<article class=\"session-card\" data-state=\"" ++ stateText card.active ++ str "\">" ++
    str "<div class=\"session-card-top\">" ++ str "<div>" ++
    str "<h2 class=\"session-title\">" ++ htmlEscape card.id ++ str "</h2>" ++
    str "<div class=\"session-meta\">" ++
    str "<span>" ++ htmlEscape (orElse card.agentName "unknown-agent") ++ str "</span>" ++
    str "<span>" ++ htmlEscape (orElse card.environmentName "unknown-environment") ++
    str "</span>" ++ str "</div>" ++ str "</div>" ++
    str "<div class=\"session-pill\" data-state=\"" ++ stateText card.active ++ str "\">" ++
    stateText card.active ++ str "</div>" ++ str "</div>" ++
    str "<div class=\"session-body\">" ++
    str "<div class=\"row\"><span class=\"label\">Created</span><span class=\"value\">" ++
    htmlEscape (orElse card.createdAt "unknown") ++ str "</span></div>" ++
    str "<div class=\"row\"><span class=\"label\">Feature</span><span class=\"value\">" ++
    htmlEscape (if card.active then card.activeFeatureId else str "none") ++
    str "</span></div>" ++ str "</div>" ++
    str "<a class=\"session-link\" href=\"" ++ htmlEscape card.dashboardPath ++
    str "\">Open dashboard</a>" ++ str "</article>"

/-- The cards of a section, or a text if there are none. -/
def renderCards (cards : List SessionCard) (emptyText : CppString) : CppString :=
  if cards = [] then str "<div class=\"empty-state\">" ++ htmlEscape emptyText ++ str "</div>"
  else
    str "<div class=\"session-grid\">" ++ (cards.map renderCard).flatten ++ str "</div>"

/-- Lines of a raw string. -/
def htmlLines (lines : List String) : CppString :=
  [10].intercalate (lines.map str)

/-- The page up to its style sheet. -/
def indexOpening : List String :=
  ["<!doctype html>", "<html lang=\"en\">", "<head>", "  <meta charset=\"utf-8\">",
   "  <meta name=\"viewport\" content=\"width=device-width, initial-scale=1\">",
   "  <meta http-equiv=\"refresh\" content=\"3\">", "  <title>SCTP Session Index</title>",
   "  <style>"]

/-- The style sheet of the page. -/
def indexStyle : List String :=
  ["",
   "    :root \x7b", "      --bg: #f4efe6;", "      --panel: rgba(255, 252, 247, 0.92);",
   "      --panel-strong: #fffaf2;", "      --ink: #182126;", "      --muted: #59636c;",
   "      --border: rgba(24, 33, 38, 0.12);",
   "      --shadow: 0 28px 70px rgba(40, 31, 12, 0.12);", "      --green: #2b7a4b;",
   "      --amber: #b87912;", "      --gray: #74818a;", "    \x7d", "",
   "    * \x7b box-sizing: border-box; \x7d", "",
   "    body \x7b", "      margin: 0;", "      min-height: 100vh;",
   "      font-family: \"Iowan Old Style\", \"Palatino Linotype\", \"Book Antiqua\", Palatino, Georgia, serif;",
   "      color: var(--ink);", "      background:",
   "        radial-gradient(circle at top left, rgba(184, 121, 18, 0.16), transparent 32%),",
   "        radial-gradient(circle at top right, rgba(43, 122, 75, 0.12), transparent 28%),",
   "        linear-gradient(180deg, #fcf7ef 0%, var(--bg) 55%, #ebe4d8 100%);", "    \x7d", "",
   "    .shell \x7b", "      width: min(1180px, calc(100vw - 32px));",
   "      margin: 24px auto 40px;", "    \x7d", "",
   "    .hero,", "    .section,", "    .session-card \x7b", "      background: var(--panel);",
   "      border: 1px solid var(--border);", "      box-shadow: var(--shadow);",
   "      backdrop-filter: blur(10px);", "    \x7d", "",
   "    .hero,", "    .section \x7b", "      padding: 24px;", "      border-radius: 24px;",
   "    \x7d", "",
   "    .section \x7b", "      margin-top: 18px;", "    \x7d", "",
   "    h1,", "    h2,", "    .subtitle,", "    .session-meta,", "    .session-body,",
   "    .refresh-note,", "    .empty-state \x7b", "      margin: 0;", "    \x7d", "",
   "    h1 \x7b", "      font-size: clamp(2rem, 4.8vw, 3.2rem);", "      line-height: 0.96;",
   "      letter-spacing: -0.04em;", "    \x7d", "",
   "    .subtitle,", "    .refresh-note,", "    .session-meta,", "    .session-body,",
   "    .empty-state \x7b",
   "      font-family: \"SFMono-Regular\", Menlo, Consolas, \"Liberation Mono\", monospace;",
   "    \x7d", "",
   "    .subtitle,", "    .refresh-note \x7b", "      color: var(--muted);",
   "      font-size: 0.92rem;", "    \x7d", "",
   "    .subtitle \x7b", "      margin-top: 10px;", "    \x7d", "",
   "    .refresh-note \x7b", "      margin-top: 16px;", "    \x7d", "",
   "    .hero-stats \x7b", "      display: grid;", "      gap: 16px;",
   "      grid-template-columns: repeat(auto-fit, minmax(160px, 1fr));",
   "      margin-top: 20px;", "    \x7d", "",
   "    .stat \x7b", "      padding: 16px 18px;", "      border-radius: 18px;",
   "      background: var(--panel-strong);", "      border: 1px solid var(--border);", "    \x7d",
   "",
   "    .stat .label \x7b", "      color: var(--muted);", "      font-size: 0.8rem;",
   "      text-transform: uppercase;", "      letter-spacing: 0.12em;", "    \x7d", "",
   "    .stat .value \x7b", "      margin-top: 8px;", "      font-size: 2rem;",
   "      line-height: 1;", "    \x7d", "",
   "    .section-title \x7b", "      font-size: 1.3rem;", "      line-height: 1.1;", "    \x7d",
   "",
   "    .section-copy \x7b", "      margin-top: 8px;", "      color: var(--muted);",
   "      font-size: 0.92rem;", "    \x7d", "",
   "    .session-grid \x7b", "      margin-top: 18px;", "      display: grid;",
   "      gap: 16px;", "      grid-template-columns: repeat(auto-fit, minmax(280px, 1fr));",
   "    \x7d", "",
   "    .session-card \x7b", "      border-radius: 20px;", "      padding: 18px;",
   "      position: relative;", "      overflow: hidden;", "    \x7d", "",
   "    .session-card::before \x7b", "      content: \"\";", "      position: absolute;",
   "      inset: 0 auto 0 0;", "      width: 8px;", "      background: var(--gray);", "    \x7d",
   "",
   "    .session-card[data-state=\"active\"]::before \x7b", "      background: var(--amber);",
   "    \x7d", "",
   "    .session-card-top \x7b", "      display: flex;", "      gap: 12px;",
   "      align-items: flex-start;", "      justify-content: space-between;", "    \x7d", "",
   "    .session-title \x7b", "      font-size: 1.12rem;", "      line-height: 1.18;",
   "      overflow-wrap: anywhere;", "    \x7d", "",
   "    .session-meta \x7b", "      margin-top: 10px;", "      color: var(--muted);",
   "      font-size: 0.76rem;", "      text-transform: uppercase;",
   "      letter-spacing: 0.08em;", "      display: flex;", "      gap: 10px;",
   "      flex-wrap: wrap;", "    \x7d", "",
   "    .session-pill \x7b", "      flex: 0 0 auto;", "      padding: 7px 11px;",
   "      border-radius: 999px;", "      border: 1px solid currentColor;",
   "      font-size: 0.72rem;", "      text-transform: uppercase;",
   "      letter-spacing: 0.12em;", "      background: rgba(255, 255, 255, 0.8);",
   "      color: var(--gray);", "    \x7d", "",
   "    .session-pill[data-state=\"active\"] \x7b", "      color: var(--amber);", "    \x7d", "",
   "    .session-body \x7b", "      margin-top: 16px;", "      color: var(--muted);",
   "      font-size: 0.82rem;", "      line-height: 1.55;", "    \x7d", "",
   "    .row \x7b", "      display: flex;", "      gap: 12px;",
   "      justify-content: space-between;", "      align-items: baseline;", "    \x7d", "",
   "    .row + .row \x7b", "      margin-top: 8px;", "    \x7d", "",
   "    .row .label \x7b", "      text-transform: uppercase;", "      letter-spacing: 0.08em;",
   "    \x7d", "",
   "    .row .value \x7b", "      color: var(--ink);", "      text-align: right;",
   "      overflow-wrap: anywhere;", "    \x7d", "",
   "    .session-link \x7b", "      display: inline-block;", "      margin-top: 18px;",
   "      color: var(--ink);", "      text-decoration: none;",
   "      border-bottom: 1px solid rgba(24, 33, 38, 0.24);", "      padding-bottom: 2px;",
   "    \x7d", "",
   "    .empty-state \x7b", "      margin-top: 18px;", "      padding: 20px;",
   "      border-radius: 18px;", "      border: 1px dashed var(--border);",
   "      color: var(--muted);", "      text-align: center;", "    \x7d", "",
   "    @media (max-width: 720px) \x7b",
   "      .shell \x7b width: min(100vw - 20px, 1180px); margin-top: 10px; \x7d",
   "      .hero, .section \x7b padding: 18px; border-radius: 20px; \x7d", "    \x7d", "  "]

/-- The page behind the style sheet up to the number of active sessions. -/
def indexHero : List String :=
  ["</style>", "</head>", "<body>", "  <main class=\"shell\">", "    <section class=\"hero\">",
   "      <h1>SCTP session index</h1>",
   "      <p class=\"subtitle\">Live dashboard links for the FreeBSD reference server. This page refreshes every 3 seconds.</p>",
   "      <div class=\"hero-stats\">", "        <section class=\"stat\">",
   "          <div class=\"label\">Active Sessions</div>", "          <div class=\"value\">"]

/-- Between the two numbers. -/
def indexKnown : List String :=
  ["</div>", "        </section>", "        <section class=\"stat\">",
   "          <div class=\"label\">Known Sessions</div>", "          <div class=\"value\">"]

/-- The page behind the numbers up to the active sessions. -/
def indexActive : List String :=
  ["</div>", "        </section>", "      </div>",
   "      <p class=\"refresh-note\">Open a dashboard link to watch a single session update in realtime.</p>",
   "    </section>", "",
   "    <section class=\"section\">", "      <h2 class=\"section-title\">Active Sessions</h2>",
   "      <p class=\"section-copy\">Sessions with an in-flight feature are listed here first.</p>",
   "      "]

/-- Between the two sections. -/
def indexOther : List String :=
  ["",
   "    </section>", "",
   "    <section class=\"section\">", "      <h2 class=\"section-title\">Other Sessions</h2>",
   "      <p class=\"section-copy\">Idle or completed sessions stay available until the server restarts.</p>",
   "      "]

/-- The end of the page. -/
def indexClosing : List String :=
  ["",
   "    </section>", "  </main>", "</body>", "</html>"]

/-- The page with these cards in its two sections. -/
def indexHtml (active other : List SessionCard) : CppString :=
  htmlLines indexOpening ++ htmlLines indexStyle ++ htmlLines indexHero ++
    decimal active.length ++ htmlLines indexKnown ++ decimal (active.length + other.length) ++
    htmlLines indexActive ++ renderCards active (str "No sessions are active right now.") ++
    htmlLines indexOther ++
    renderCards other (str "No additional sessions are currently stored in memory.") ++
    htmlLines indexClosing

/-- `SessionIndexHtml`, for the sessions in the order of the map. -/
def sessionIndexHtml (order : NewestFirst) (sessions : List (Session c)) : CppString :=
  let cards := sessions.map Session.card
  indexHtml
    (order.sort SessionCard.createdAtPoint (cards.filter fun card => card.active))
    (order.sort SessionCard.createdAtPoint (cards.filter fun card => !card.active))

/-! ## Escaped texts -/

/-- An escaped byte has no markup. -/
theorem plain_htmlEscapeByte (ch : UInt8) : Plain (htmlEscapeByte ch) := by
  unfold htmlEscapeByte
  split_ifs with hamp hlt hgt hquot hapos
  · unfold Plain
    decide
  · unfold Plain
    decide
  · unfold Plain
    decide
  · unfold Plain
    decide
  · unfold Plain
    decide
  · intro c hc
    rw [List.mem_singleton.mp hc]
    exact ⟨hlt, hgt, hquot, hapos⟩

/-- An escaped text holds no markup bytes. -/
theorem plain_htmlEscape (value : CppString) : Plain (htmlEscape value) := by
  intro ch hch
  rcases List.mem_flatMap.mp hch with ⟨c, _, hc⟩
  exact plain_htmlEscapeByte c ch hc

/-- An escaped byte is read back. -/
theorem unescape_htmlEscapeByte (ch : UInt8) (rest : CppString) :
    unescape (htmlEscapeByte ch ++ rest) = ch :: unescape rest := by
  unfold htmlEscapeByte
  split_ifs with hamp hlt hgt hquot hapos
  · rw [hamp]
    rfl
  · rw [hlt]
    rfl
  · rw [hgt]
    rfl
  · rw [hquot]
    rfl
  · rw [hapos]
    rfl
  · exact unescape_cons hamp rest

/-- An escaped text is read back. -/
theorem unescape_htmlEscape (value : CppString) : unescape (htmlEscape value) = value := by
  induction value with
  | nil => rfl
  | cons ch value ih =>
      rw [htmlEscape, List.flatMap_cons, unescape_htmlEscapeByte]
      exact congrArg (ch :: ·) ih

/-! ## Sorting -/

/-- `std::sort` can do what is asked of it. -/
def NewestFirst.stable : NewestFirst where
  arrange times :=
    (List.range times.length).mergeSort fun i j => times.getD j 0 ≤ times.getD i 0
  perm times := List.mergeSort_perm _ _
  sorted times := by
    rw [List.pairwise_map]
    refine (List.pairwise_mergeSort ?_ ?_ _).imp fun h => of_decide_eq_true h
    · intro i j k hij hjk
      simp only [decide_eq_true_eq] at hij hjk ⊢
      exact hjk.trans hij
    · intro i j
      simp only [Bool.or_eq_true, decide_eq_true_eq]
      exact le_total _ _

/-- The values at all indices are the values. -/
theorem filterMap_range {α : Type} (values : List α) :
    (List.range values.length).filterMap (fun i => values[i]?) = values := by
  induction values using List.reverseRecOn with
  | nil => rfl
  | append_singleton front last ih =>
      have hfront : (List.range front.length).filterMap (fun i => (front ++ [last])[i]?) =
          (List.range front.length).filterMap fun i => front[i]? := by
        apply List.filterMap_congr
        intro i hi
        exact List.getElem?_append_left (List.mem_range.mp hi)
      rw [List.length_append, List.length_singleton, List.range_succ, List.filterMap_append,
        hfront, ih]
      simp

namespace NewestFirst

variable {α : Type} (order : NewestFirst) (time : α → TimePoint)

/-- Sorting keeps the values. -/
theorem sort_perm (values : List α) : (order.sort time values).Perm values := by
  have h := (order.perm (values.map time)).filterMap fun i => values[i]?
  rw [List.length_map, filterMap_range] at h
  exact h

/-- The newest come first. -/
theorem sort_pairwise (values : List α) :
    ((order.sort time values).map time).Pairwise (· ≥ ·) := by
  have hmem : ∀ i ∈ order.arrange (values.map time), i < values.length := by
    intro i hi
    have hrange := (order.perm (values.map time)).mem_iff.mp hi
    rw [List.mem_range, List.length_map] at hrange
    exact hrange
  have hsorted := order.sorted (values.map time)
  rw [sort]
  generalize order.arrange (values.map time) = positions at hmem hsorted
  have hmap : (positions.filterMap fun i => values[i]?).map time =
      positions.map fun i => (values.map time).getD i 0 := by
    induction positions with
    | nil => rfl
    | cons i positions ih =>
        have hi := hmem i List.mem_cons_self
        rw [List.filterMap_cons_some (List.getElem?_eq_getElem hi), List.map_cons, List.map_cons,
          ih (fun j hj => hmem j (List.mem_cons_of_mem i hj)) (List.pairwise_cons.mp hsorted).2]
        simp [hi]
  rw [hmap]
  exact hsorted

/-- The times decide the order. -/
theorem forall₂_sort {R : α → α → Prop} (htime : ∀ value value', R value value' →
    time value = time value') {values values' : List α} (h : List.Forall₂ R values values') :
    List.Forall₂ R (order.sort time values) (order.sort time values') := by
  have htimes : values.map time = values'.map time := by
    induction h with
    | nil => rfl
    | cons hfirst _ ih => rw [List.map_cons, List.map_cons, htime _ _ hfirst, ih]
  rw [sort, sort, ← htimes]
  induction order.arrange (values.map time) with
  | nil => exact .nil
  | cons i positions ih =>
      rcases Nat.lt_or_ge i values.length with hi | hi
      · have hi' : i < values'.length := h.length_eq ▸ hi
        rw [List.filterMap_cons_some (List.getElem?_eq_getElem hi),
          List.filterMap_cons_some (List.getElem?_eq_getElem hi')]
        exact .cons (h.get hi hi') ih
      · have hi' : values'.length ≤ i := h.length_eq ▸ hi
        rw [List.filterMap_cons_none (List.getElem?_eq_none hi),
          List.filterMap_cons_none (List.getElem?_eq_none hi')]
        exact ih

end NewestFirst

/-! ## Cards -/

/-- Escaped texts are alike between tags. -/
theorem alike_htmlEscape (value value' : CppString) :
    Alike .text .text (htmlEscape value) (htmlEscape value') :=
  alike_plain (plain_htmlEscape value) (plain_htmlEscape value')

/-- They are alike in the value of an attribute, too. -/
theorem alike_htmlEscape_value (value value' : CppString) :
    Alike (.value 34) (.value 34) (htmlEscape value) (htmlEscape value') :=
  alike_plain_value (plain_htmlEscape value) (plain_htmlEscape value')

/-- The texts between the names are whole tags or lead from a tag into a value and back. -/
theorem alike_renderCard {card card' : SessionCard} (h : card.active = card'.active) :
    Alike .text .text (renderCard card) (renderCard card') := by
  have hstate : Alike .text .text (stateText card.active) (stateText card'.active) := by
    rw [h]
    refine .refl (Mode.after_text ?_)
    cases card'.active with
    | false => decide
    | true => decide
  have hstateValue : Alike (.value 34) (.value 34) (stateText card.active)
      (stateText card'.active) := by
    rw [h]
    refine .refl ?_
    cases card'.active with
    | false => decide
    | true => decide
  have htags : ∀ text : String, Mode.text.after (str text) = .text →
      Alike .text .text (str text) (str text) := fun _ => .refl
  have hopens : ∀ text : String, Mode.text.after (str text) = .value 34 →
      Alike .text (.value 34) (str text) (str text) := fun _ => .refl
  have hcloses : ∀ text : String, (Mode.value 34).after (str text) = .text →
      Alike (.value 34) .text (str text) (str text) := fun _ => .refl
  unfold renderCard
  simp only [List.append_assoc]
  -- The article.
  refine .append (hopens _ (by decide)) ?_
  refine .append hstateValue ?_
  refine .append (hcloses _ (by decide)) ?_
  -- The title.
  refine .append (htags _ (by decide)) ?_
  refine .append (htags _ (by decide)) ?_
  refine .append (htags _ (by decide)) ?_
  refine .append (alike_htmlEscape _ _) ?_
  refine .append (htags _ (by decide)) ?_
  -- The names.
  refine .append (htags _ (by decide)) ?_
  refine .append (htags _ (by decide)) ?_
  refine .append (alike_htmlEscape _ _) ?_
  refine .append (htags _ (by decide)) ?_
  refine .append (htags _ (by decide)) ?_
  refine .append (alike_htmlEscape _ _) ?_
  refine .append (htags _ (by decide)) ?_
  refine .append (htags _ (by decide)) ?_
  refine .append (htags _ (by decide)) ?_
  -- The state.
  refine .append (hopens _ (by decide)) ?_
  refine .append hstateValue ?_
  refine .append (hcloses _ (by decide)) ?_
  refine .append hstate ?_
  refine .append (htags _ (by decide)) ?_
  refine .append (htags _ (by decide)) ?_
  -- The rows.
  refine .append (htags _ (by decide)) ?_
  refine .append (htags _ (by decide)) ?_
  refine .append (alike_htmlEscape _ _) ?_
  refine .append (htags _ (by decide)) ?_
  refine .append (htags _ (by decide)) ?_
  refine .append (alike_htmlEscape _ _) ?_
  refine .append (htags _ (by decide)) ?_
  refine .append (htags _ (by decide)) ?_
  -- The link to the dashboard.
  refine .append (hopens _ (by decide)) ?_
  refine .append (alike_htmlEscape_value _ _) ?_
  refine .append (hcloses _ (by decide)) ?_
  exact htags _ (by decide)

/-- Sections with as many cards in the same states are alike. -/
theorem alike_renderCards {cards cards' : List SessionCard} (emptyText : CppString)
    (h : List.Forall₂ (fun card card' => card.active = card'.active) cards cards') :
    Alike .text .text (renderCards cards emptyText) (renderCards cards' emptyText) := by
  have hopening : Alike .text .text (str "<div class=\"session-grid\">")
      (str "<div class=\"session-grid\">") := .refl (by decide)
  have hclosing : Alike .text .text (str "</div>") (str "</div>") := .refl (by decide)
  unfold renderCards
  cases h with
  | nil =>
      rw [if_pos rfl]
      have hempty : Alike .text .text (str "<div class=\"empty-state\">")
          (str "<div class=\"empty-state\">") := .refl (by decide)
      exact (hempty.append (alike_htmlEscape emptyText emptyText)).append hclosing
  | cons hcard hcards =>
      rw [if_neg (List.cons_ne_nil _ _), if_neg (List.cons_ne_nil _ _)]
      refine (hopening.append (alike_flatten ?_)).append hclosing
      rw [List.forall₂_map_left_iff, List.forall₂_map_right_iff]
      have hall : List.Forall₂ (fun card card' : SessionCard => card.active = card'.active) _ _ :=
        .cons hcard hcards
      exact hall.imp fun _ _ hactive => alike_renderCard hactive

/-! ## The page around the cards -/

/-- The lines have only the characters of each of them. -/
theorem not_mem_htmlLines {ch : UInt8} (hch : ch ≠ 10) {lines : List String}
    (h : ∀ line ∈ lines, ch ∉ str line) : ch ∉ htmlLines lines := by
  induction lines with
  | nil => exact List.not_mem_nil
  | cons line lines ih =>
      have hline := h line List.mem_cons_self
      have hlines := ih fun l hl => h l (List.mem_cons_of_mem line hl)
      unfold htmlLines at hlines ⊢
      cases lines with
      | nil =>
          rw [List.map_singleton, List.intercalate_singleton]
          exact hline
      | cons next lines =>
          rw [List.map_cons, List.map_cons, List.intercalate_cons_cons, List.mem_append,
            List.mem_append, List.mem_singleton, not_or, not_or]
          exact ⟨⟨hline, hch⟩, hlines⟩

/-- The style sheet holds no tags, and the tags in the rest of the page are whole. -/
theorem indexLines_whole :
    (indexStyle.all fun line => (str line).all fun ch => ch != 60) = true ∧
      ∀ lines ∈ [indexOpening, indexHero, indexKnown, indexActive, indexOther, indexClosing],
        Mode.text.after (htmlLines lines) = .text := by
  decide +kernel

/-- The style sheet contains no tag. -/
theorem lt_not_mem_indexStyle : (60 : UInt8) ∉ htmlLines indexStyle := by
  refine not_mem_htmlLines (by decide) fun line hline hmem => ?_
  have hne := List.all_eq_true.mp (List.all_eq_true.mp indexLines_whole.1 line hline) 60 hmem
  exact absurd hne (by decide)

/-- Neither does a number. -/
theorem lt_not_mem_decimal (n : Nat) : (60 : UInt8) ∉ decimal n := by
  intro hmem
  have hdigit := decimal_digits n 60 hmem
  exact absurd hdigit (by decide)

/-- Pages with as many cards in the same states are alike. -/
theorem alike_indexHtml {active active' other other' : List SessionCard}
    (hactive : List.Forall₂ (fun card card' => card.active = card'.active) active active')
    (hother : List.Forall₂ (fun card card' => card.active = card'.active) other other') :
    Alike .text .text (indexHtml active other) (indexHtml active' other') := by
  have hlines : ∀ lines ∈ [indexOpening, indexHero, indexKnown, indexActive, indexOther,
      indexClosing], Alike .text .text (htmlLines lines) (htmlLines lines) :=
    fun lines hmem => .refl (indexLines_whole.2 lines hmem)
  have hstyle : Alike .text .text (htmlLines indexStyle) (htmlLines indexStyle) :=
    .refl (Mode.after_text lt_not_mem_indexStyle)
  have hdecimal : ∀ n, Alike .text .text (decimal n) (decimal n) := fun n =>
    .refl (Mode.after_text (lt_not_mem_decimal n))
  unfold indexHtml
  rw [← hactive.length_eq, ← hother.length_eq]
  simp only [List.append_assoc]
  refine .append (hlines indexOpening (by simp)) ?_
  refine .append hstyle ?_
  refine .append (hlines indexHero (by simp)) ?_
  refine .append (hdecimal _) ?_
  refine .append (hlines indexKnown (by simp)) ?_
  refine .append (hdecimal _) ?_
  refine .append (hlines indexActive (by simp)) ?_
  refine .append (alike_renderCards _ hactive) ?_
  refine .append (hlines indexOther (by simp)) ?_
  refine .append (alike_renderCards _ hother) ?_
  exact hlines indexClosing (by simp)

/-! ## The index of a session table -/

/-- The sessions differ in the names that their clients have given at most. -/
def Session.Renamed (session session' : Session c) : Prop :=
  { session' with agentName := session.agentName, environmentName := session.environmentName } =
    session

/-- The two names are no part of what the page is laid out by. -/
theorem Session.Renamed.card_eq {session session' : Session c} (h : session.Renamed session') :
    { session'.card with agentName := session.agentName,
                         environmentName := session.environmentName } = session.card := by
  rw [← h]
  rfl

/-- Other names of the sessions leave the markup of the page as it is. -/
theorem alike_sessionIndexHtml (order : NewestFirst) {sessions sessions' : List (Session c)}
    (h : List.Forall₂ Session.Renamed sessions sessions') :
    Alike .text .text (sessionIndexHtml order sessions) (sessionIndexHtml order sessions') := by
  let Same (card card' : SessionCard) : Prop :=
    card.active = card'.active ∧ card.createdAtPoint = card'.createdAtPoint
  have hcards : List.Forall₂ Same (sessions.map Session.card) (sessions'.map Session.card) := by
    rw [List.forall₂_map_left_iff, List.forall₂_map_right_iff]
    refine h.imp fun session session' hrenamed => ?_
    rw [← hrenamed.card_eq]
    exact ⟨rfl, rfl⟩
  have hsection : ∀ listed : Bool → Bool,
      List.Forall₂ (fun card card' => card.active = card'.active)
        (order.sort SessionCard.createdAtPoint
          ((sessions.map Session.card).filter fun card => listed card.active))
        (order.sort SessionCard.createdAtPoint
          ((sessions'.map Session.card).filter fun card => listed card.active)) := by
    intro listed
    refine (order.forall₂_sort SessionCard.createdAtPoint (R := Same) (fun _ _ hsame => hsame.2)
      ?_).imp fun _ _ hsame => hsame.1
    refine List.rel_filter (R := Same) ?_ hcards
    intro card card' hsame
    show listed card.active = true ↔ listed card'.active = true
    rw [hsame.1]
  exact alike_indexHtml (hsection id) (hsection not)

/-- The pages of the server, given its dashboards. -/
def serverPages (order : NewestFirst) (dashboard : Session c → CppString) : Pages c where
  index := sessionIndexHtml order
  dashboard := dashboard

/-- The sessions in the order of the map. -/
def Registry.table (ρ : Registry c) : List (Session c) :=
  ρ.sessions.map fun entry => ρ.shared.sessions entry.2

/-- Two servers whose tables differ in names answer a request for `/` with the same markup. -/
theorem handleHttp_index (host : Host) (order : NewestFirst) (dashboard : Session c → CppString)
    {ρ ρ' : Registry c} {request : HttpRequest} (hmethod : request.method = str "GET")
    (hpath : request.path = str "/") (htable : List.Forall₂ Session.Renamed ρ.table ρ'.table)
    (input input' : HttpInput) :
    skeleton (handleHttp host (serverPages order dashboard) ρ request input).response.body =
      skeleton (handleHttp host (serverPages order dashboard) ρ' request input').response.body := by
  have hroute : ∀ registry : Registry c, route (serverPages order dashboard) registry request =
      .request (.other (htmlResponse (sessionIndexHtml order registry.table))) := by
    intro registry
    rw [route, if_pos ⟨hmethod, hpath⟩]
    rfl
  rw [handleHttp, handleHttp, hroute, hroute]
  exact (alike_sessionIndexHtml order htable).skeleton_eq

/-- Each session has its card in the section that it belongs to. -/
theorem sessionIndexHtml_cards (order : NewestFirst) (sessions : List (Session c)) :
    ∃ active other : List (Session c),
      (active ++ other).Perm sessions ∧
      (∀ session ∈ active, session.activeFeatureId ≠ []) ∧
      (∀ session ∈ other, session.activeFeatureId = []) ∧
      sessionIndexHtml order sessions =
        indexHtml (active.map Session.card) (other.map Session.card) := by
  have hfilter : ∀ listed : Bool → Bool,
      (sessions.map Session.card).filter (fun card => listed card.active) =
        (sessions.filter fun session => listed session.card.active).map Session.card := fun listed =>
    List.filter_map
  have hsort : ∀ shown : List (Session c),
      order.sort SessionCard.createdAtPoint (shown.map Session.card) =
        (order.sort Session.createdAt shown).map Session.card := by
    intro shown
    rw [NewestFirst.sort, NewestFirst.sort, List.map_filterMap, List.map_map]
    refine List.filterMap_congr fun i _ => ?_
    rw [List.getElem?_map]
  let section_ (listed : Bool → Bool) : List (Session c) :=
    order.sort Session.createdAt (sessions.filter fun session => listed session.card.active)
  have hmem : ∀ listed session, session ∈ section_ listed →
      listed session.card.active = true := fun listed session h =>
    (List.mem_filter.mp ((order.sort_perm _ _).mem_iff.mp h)).2
  refine ⟨section_ id, section_ not, ?_, ?_, ?_, ?_⟩
  · have hparts := List.filter_append_perm (fun session => session.card.active) sessions
    exact ((order.sort_perm _ _).append (order.sort_perm _ _)).trans hparts
  · intro session h
    exact of_decide_eq_true (hmem id session h)
  · intro session h
    have hidle : (!session.card.active) = true := hmem not session h
    rw [Bool.not_eq_true'] at hidle
    exact not_not.mp (of_decide_eq_false hidle)
  · have hactive := hfilter id
    have hother := hfilter not
    unfold sessionIndexHtml
    simp only [id] at hactive
    simp only [hactive, hother, hsort]
    rfl

end SctpConformance
