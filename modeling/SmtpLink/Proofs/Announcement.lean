import SmtpLink.Capabilities
import SmtpLink.Proofs.Encoding
import SmtpLink.Proofs.Rendering
import SmtpLink.Proofs.Words

/-!
# Announcements in print

The table of what a server announced is made from the reply, or from the reply as it is printed.
Print drops the lines that are empty behind their code, and the reply keeps them.  So the two
tables can differ: if the greeting line is empty, print takes the next line for it, and an empty
line that announces an unknown extension in the reply announces nothing in print.

## Main definitions

* `Capabilities.shown` — the lines of a message that are not empty.
* `Capabilities.EmptiesHidden` — empty lines make no difference to an announcement.

## Main results

* `Text.lines_intercalate` — lines that are joined are cut again.
* `Capabilities.parse_render` — print shows the lines that are not empty.
* `Capabilities.raw_and_reply_agree_iff` — **the two tables agree exactly if empty lines make no
  difference**, so whenever there is none.
-/

namespace SmtpLink

/-! ### Cutting print -/

namespace Text

/-- Pieces that are joined by a mark are cut again. -/
theorem pieces_intercalate {mark : Char} {all : List (List Char)} (some : all ≠ [])
    (clean : ∀ piece ∈ all, mark ∉ piece) : pieces (· == mark) ([mark].intercalate all) = all := by
  have solid {piece : List Char} (absent : mark ∉ piece) : ∀ c ∈ piece, (c == mark) = false :=
    fun c mem => beq_eq_false_iff_ne.mpr fun same => absent (same ▸ mem)
  induction all with
  | nil => exact absurd rfl some
  | cons first rest ih =>
    obtain ⟨cleanFirst, cleanRest⟩ := List.forall_mem_cons.mp clean
    cases rest with
    | nil => rw [List.intercalate_singleton, pieces_of_solid (solid cleanFirst)]
    | cons second rest =>
      rw [List.intercalate_cons_cons, List.append_assoc, List.singleton_append,
        pieces_append_cons (by simp), pieces_of_solid (solid cleanFirst),
        ih (List.cons_ne_nil second rest) cleanRest]
      rfl

theorem dropReturn_eq {line : List Char} (clean : '\r' ∉ line) : dropReturn line = line := by
  rw [dropReturn, if_neg]
  intro last
  exact clean (List.mem_of_getLast? (by simpa using last))

/-- **Lines that are joined are cut again**, if the last one is not empty. -/
theorem lines_intercalate {all : List (List Char)} (some : all ≠ [])
    (clean : ∀ line ∈ all, '\n' ∉ line ∧ '\r' ∉ line) (ends : all.getLast some ≠ []) :
    lines (['\n'].intercalate all) = all := by
  have kept : all.dropLast.map dropReturn = all.dropLast := by
    refine (List.map_congr_left fun line mem => ?_).trans (List.map_id _)
    exact dropReturn_eq (clean line ((List.dropLast_sublist all).subset mem)).2
  rw [lines, pieces_intercalate some fun line mem => (clean line mem).1,
    List.getLast?_eq_some_getLast some, Option.getD_some, kept, if_neg (by simpa using ends)]
  exact List.dropLast_concat_getLast some

end Text

namespace Capabilities

variable {r : Reply} {message : List String}

theorem isEmpty_toList (line : String) : line.toList.isEmpty = line.isEmpty := by
  rw [Bool.eq_iff_iff, List.isEmpty_iff, String.isEmpty_iff, String.toList_eq_nil_iff]

/-- The lines of a message that are not empty. -/
def shown (message : List String) : List String := message.filter fun line => !line.isEmpty

theorem shown_cons (line : String) (message : List String) :
    shown (line :: message) = if line = "" then shown message else line :: shown message := by
  rw [shown, List.filter_cons]
  by_cases empty : line = ""
  · rw [if_pos empty, if_neg (by simp [empty])]
    rfl
  · rw [if_neg empty, if_pos (by simpa using empty)]
    rfl

theorem mem_shown {line : String} : line ∈ shown message ↔ line ∈ message ∧ line ≠ "" := by
  rw [shown, List.mem_filter]
  simp

theorem shown_eq (full : ∀ line ∈ message, line ≠ "") : shown message = message := by
  rw [shown, List.filter_eq_self]
  intro line mem
  simpa using full line mem

/-- A line without return ends with none. -/
theorem dropEndWhile_return_eq {line : List Char} (plain : '\r' ∉ line) :
    Text.dropEndWhile (· == '\r') line = line := by
  refine dropEndWhile_eq fun c last => ?_
  rw [beq_eq_false_iff_ne]
  rintro rfl
  exact plain (List.mem_of_getLast? last)

/-- What stands behind a code and a mark is a text without return. -/
theorem stripCode_text {code : ReplyCode} (three : code.HasThreeDigits) {mark : Char}
    (marks : mark = '-' ∨ mark = ' ') {text : List Char} (clean : '\r' ∉ text) :
    stripCode (code.text.toList ++ mark :: text) = text := by
  have plain : '\r' ∉ code.text.toList ++ mark :: text := by
    rw [List.mem_append, List.mem_cons, not_or, not_or]
    refine ⟨Reply.not_mem_text rfl code, ?_, clean⟩
    rcases marks with rfl | rfl
    · decide
    · decide
  obtain ⟨kind, means⟩ : ∃ kind, LineKind.ofMark? (some mark) = some kind := by
    rcases marks with rfl | rfl
    · exact ⟨.continuation, rfl⟩
    · exact ⟨.final, rfl⟩
  rw [stripCode, dropEndWhile_return_eq plain, Reply.parseLine?_text three means]

/-- Nothing stands behind a bare code. -/
theorem stripCode_bare {code : ReplyCode} (three : code.HasThreeDigits) :
    stripCode code.text.toList = [] := by
  have plain : '\r' ∉ code.text.toList := Reply.not_mem_text rfl code
  have cut := three.splitCode? []
  rw [List.append_nil] at cut
  rw [stripCode, dropEndWhile_return_eq plain, parseLine?, cut]
  rfl

/-- What stands behind the codes of printed lines is the message. -/
theorem map_stripCode_marked {code : ReplyCode} (three : code.HasThreeDigits)
    (clean : ∀ text ∈ message, '\r' ∉ text.toList) :
    ((Reply.marked code.text message).map String.toList).map stripCode =
      message.map String.toList := by
  have strip (mark : Char) {line text : String} (made : line.toList = code.text.toList ++
      mark :: text.toList) (marks : mark = '-' ∨ mark = ' ') (clean : '\r' ∉ text.toList) :
      stripCode line.toList = text.toList := by
    rw [made, stripCode_text three marks clean]
  fun_induction Reply.marked code.text message with
  | case1 => rfl
  | case2 last =>
    rw [List.map_singleton, List.map_singleton, List.map_singleton,
      strip ' ' (by simp) (.inr rfl) (clean last List.mem_cons_self)]
  | case3 line next rest ih =>
    obtain ⟨cleanLine, cleanRest⟩ := List.forall_mem_cons.mp clean
    rw [List.map_cons, List.map_cons, List.map_cons, ih cleanRest,
      strip '-' (by simp) (.inl rfl) cleanLine]

/-- The lines of a printed reply hold no line ends, and none of them is empty. -/
theorem of_mem_wireLines (clean : ∀ text ∈ r.message, '\n' ∉ text.toList ∧ '\r' ∉ text.toList)
    (three : r.code.HasThreeDigits) {line : String} (mem : line ∈ r.wireLines) :
    ('\n' ∉ line.toList ∧ '\r' ∉ line.toList) ∧ line.toList ≠ [] := by
  have feed := Reply.not_mem_text (c := '\n') rfl r.code
  have back := Reply.not_mem_text (c := '\r') rfl r.code
  rw [Reply.wireLines] at mem
  split at mem
  · obtain rfl := List.mem_singleton.mp mem
    refine ⟨⟨feed, back⟩, ?_⟩
    rw [three.toList_text]
    exact List.cons_ne_nil _ _
  · obtain ⟨mark, marks, text, among, made⟩ := Reply.of_mem_marked mem
    obtain ⟨noFeed, noReturn⟩ := clean text among
    have plain : '\n' ≠ mark ∧ '\r' ≠ mark := by
      rcases marks with rfl | rfl
      · decide
      · decide
    simp only [made, List.mem_append, List.mem_cons, not_or]
    refine ⟨⟨⟨feed, plain.1, noFeed⟩, back, plain.2, noReturn⟩, ?_⟩
    exact List.append_ne_nil_of_right_ne_nil _ (List.cons_ne_nil _ _)

/-- What stands behind the codes of a printed reply: the message, or nothing. -/
theorem map_stripCode_wireLines (three : r.code.HasThreeDigits)
    (clean : ∀ text ∈ r.message, '\r' ∉ text.toList) :
    (r.wireLines.map String.toList).map stripCode =
      if r.message.isEmpty then [[]] else r.message.map String.toList := by
  rw [Reply.wireLines]
  split
  · rw [List.map_singleton, List.map_singleton, stripCode_bare three]
  · exact map_stripCode_marked three clean

/-- **Print shows the lines that are not empty.** -/
theorem parse_render (three : r.code.HasThreeDigits)
    (clean : ∀ text ∈ r.message, '\n' ∉ text.toList ∧ '\r' ∉ text.toList) :
    parse r.render = ofAnnouncement (shown r.message) := by
  have some : r.wireLines.map String.toList ≠ [] := by
    rw [ne_eq, List.map_eq_nil_iff, Reply.wireLines]
    split
    · simp
    · next some =>
      obtain ⟨first, rest, -, -, cut, -⟩ :=
        Reply.exists_marked_cons r.code.text (by simpa using some)
      rw [cut]
      exact List.cons_ne_nil first rest
  have lines : Text.lines r.render.toList = r.wireLines.map String.toList := by
    rw [Reply.render, String.toList_intercalate]
    refine Text.lines_intercalate some ?_ ?_
    · exact List.forall_mem_map.mpr fun line mem => (of_mem_wireLines clean three mem).1
    · obtain ⟨line, mem, same⟩ := List.mem_map.mp (List.getLast_mem some)
      rw [← same]
      exact (of_mem_wireLines clean three mem).2
  have left : ((r.wireLines.map String.toList).map stripCode).filter (fun line => !line.isEmpty) =
      (shown r.message).map String.toList := by
    rw [map_stripCode_wireLines three fun text mem => (clean text mem).2]
    split
    · next none =>
      rw [List.isEmpty_iff.mp none]
      rfl
    · rw [shown, List.filter_map]
      congr 1
      refine List.filter_congr fun line mem => ?_
      exact congrArg (!·) (isEmpty_toList line)
  have back : String.ofList ∘ String.toList = id := funext fun line => String.ofList_toList
  rw [parse, lines, left, List.map_map, back, List.map_id]

/-! ### Equal tables -/

/-- A known keyword makes a known extension. -/
theorem ofKeyword?_ne_unknown (keyword : List Char) (argument : Option (List Char))
    (rest : List (List Char)) (line : String) :
    Extension.ofKeyword? keyword argument rest ≠ some (.unknown line) := by
  unfold Extension.ofKeyword?
  split <;> simp

/-- A line announces nothing by name exactly if it is blank. -/
theorem parse_eq_unknown_iff {line : String} :
    Extension.parse line = .unknown "" ↔ Text.words line.toList = [] := by
  rw [Extension.parse, Text.words_trim]
  dsimp only
  split
  · next none =>
    refine iff_of_true ?_ none
    rw [Text.trim_eq_nil_iff.mpr none]
    rfl
  · next first rest found =>
    refine iff_of_false ?_ (by rw [found]; exact List.cons_ne_nil first rest)
    intro unknown
    cases known : Extension.ofKeyword? (Text.asciiUpper (Text.cutAt '=' first).1)
      (Text.cutAt '=' first).2 rest with
    | some ext =>
      rw [known] at unknown
      exact ofKeyword?_ne_unknown _ _ _ _ (known.trans (congrArg some unknown))
    | none =>
      rw [known] at unknown
      have trimmed : Text.trim line.toList = [] := by
        rw [← String.toList_ofList (l := Text.trim line.toList), Extension.unknown.inj unknown]
        rfl
      rw [Text.trim_eq_nil_iff, found] at trimmed
      exact List.cons_ne_nil first rest trimmed

/-- A line greets with no name exactly if it is blank. -/
theorem greetedName_eq_empty_iff {line : List Char} :
    greetedName line = "" ↔ Text.words line = [] := by
  rw [greetedName]
  cases found : Text.words line with
  | nil => exact iff_of_true rfl rfl
  | cons first rest =>
    have some : first ≠ [] := Text.ne_nil_of_mem_words (found ▸ List.mem_cons_self)
    refine iff_of_false ?_ (List.cons_ne_nil first rest)
    intro empty
    apply some
    rw [← String.toList_ofList (l := first)]
    exact congrArg String.toList empty

/-- Empty lines make no difference to an announcement. -/
inductive EmptiesHidden (message : List String) : Prop
  /-- There is none. -/
  | none (full : ∀ line ∈ message, line ≠ "")
  /-- There is nothing but an empty greeting line. -/
  | alone (only : message = [""])
  /-- The first line that is shown greets with the same name, and a blank line is shown behind it:
  it announces what an empty line does. -/
  | behind {greeting : String} {others : List String} (first : shown message = greeting :: others)
      (greets : (ofAnnouncement message).hostname = greetedName greeting.toList)
      (blank : ∃ line ∈ others, Text.words line.toList = [])

/-- The name in a greeting line. -/
theorem hostname_cons (first : String) (rest : List String) :
    (ofAnnouncement (first :: rest)).hostname = greetedName first.toList := rfl

/-- What is shown behind the greeting stands behind the first line, and all else there is blank, if
the greeting gives the same name as the first line. -/
theorem others_of_shown {first greeting : String} {rest others : List String}
    (cut : shown (first :: rest) = greeting :: others)
    (greets : (ofAnnouncement (first :: rest)).hostname = greetedName greeting.toList) :
    (∀ line ∈ others, line ∈ rest) ∧
      ∀ line ∈ rest, line ∈ others ∨ Text.words line.toList = [] := by
  rw [shown_cons] at cut
  by_cases empty : first = ""
  · -- the greeting is another line, and it is blank because the first line is
    rw [if_pos empty] at cut
    rw [hostname_cons, empty] at greets
    have blank : Text.words greeting.toList = [] := greetedName_eq_empty_iff.mp greets.symm
    constructor
    · intro line mem
      exact (mem_shown.mp (cut ▸ List.mem_cons_of_mem greeting mem)).1
    · intro line mem
      by_cases none : line = ""
      · rw [none]
        exact .inr rfl
      · have among : line ∈ greeting :: others := cut ▸ mem_shown.mpr ⟨mem, none⟩
        rcases List.mem_cons.mp among with rfl | among
        · exact .inr blank
        · exact .inl among
  · rw [if_neg empty] at cut
    obtain ⟨rfl, rfl⟩ := List.cons.inj cut
    constructor
    · intro line mem
      exact (mem_shown.mp mem).1
    · intro line mem
      by_cases none : line = ""
      · rw [none]
        exact .inr rfl
      · exact .inl (mem_shown.mpr ⟨mem, none⟩)

/-- If an empty line stands in an announcement of more than that line, and the greeting that is
shown gives the same name, the announcement holds an extension without a name. -/
theorem unknown_mem_of_empty {first greeting : String} {rest others : List String}
    (cut : shown (first :: rest) = greeting :: others)
    (greets : (ofAnnouncement (first :: rest)).hostname = greetedName greeting.toList)
    (empty : "" ∈ first :: rest) : .unknown "" ∈ (ofAnnouncement (first :: rest)).extensions := by
  rw [mem_ofAnnouncement]
  rcases List.mem_cons.mp empty with rfl | behind
  · rw [shown_cons, if_pos rfl] at cut
    have blank : Text.words greeting.toList = [] := greetedName_eq_empty_iff.mp greets.symm
    refine ⟨greeting, ?_, parse_eq_unknown_iff.mpr blank⟩
    exact (mem_shown.mp (cut ▸ List.mem_cons_self)).1
  · exact ⟨"", behind, parse_eq_unknown_iff.mpr rfl⟩

/-- **An announcement says the same without its empty lines exactly if they are hidden.** -/
theorem same_shown_iff (message : List String) :
    (ofAnnouncement (shown message)).same (ofAnnouncement message) = true ↔
      EmptiesHidden message := by
  constructor
  · intro equal
    obtain ⟨name, exts⟩ := same_iff.mp equal
    by_cases empty : "" ∈ message
    · obtain ⟨first, rest, rfl⟩ := List.exists_cons_of_ne_nil (List.ne_nil_of_mem empty)
      cases cut : shown (first :: rest) with
      | nil =>
        rw [cut] at exts
        cases rest with
        | nil => exact .alone (by rw [List.mem_singleton.mp empty])
        | cons next more =>
          have announced := (exts _).mpr (mem_ofAnnouncement.mpr ⟨next, List.mem_cons_self, rfl⟩)
          exact absurd announced List.not_mem_nil
      | cons greeting others =>
        rw [cut] at name exts
        refine .behind cut name.symm ?_
        have there := (exts _).mpr (unknown_mem_of_empty cut name.symm empty)
        obtain ⟨line, mem, unknown⟩ := mem_ofAnnouncement.mp there
        exact ⟨line, mem, parse_eq_unknown_iff.mp unknown⟩
    · exact .none fun line mem same => empty (same ▸ mem)
  · intro hidden
    cases hidden with
    | none full =>
      rw [shown_eq full]
      exact same_iff.mpr ⟨rfl, fun ext => Iff.rfl⟩
    | alone only =>
      rw [only]
      rfl
    | @behind greeting others cut greets blank =>
      obtain ⟨bare, mem, bareWords⟩ := blank
      cases message with
      | nil => exact absurd cut (by simp [shown])
      | cons first rest =>
        obtain ⟨inside, back⟩ := others_of_shown cut greets
        rw [cut]
        refine same_iff.mpr ⟨greets.symm, fun ext => ?_⟩
        rw [mem_ofAnnouncement, mem_ofAnnouncement]
        constructor
        · rintro ⟨line, among, announces⟩
          exact ⟨line, inside line among, announces⟩
        · rintro ⟨line, among, announces⟩
          rcases back line among with shown | blank
          · exact ⟨line, shown, announces⟩
          · -- the blank line that is shown announces the same
            refine ⟨bare, mem, ?_⟩
            rw [← announces, parse_eq_unknown_iff.mpr blank, parse_eq_unknown_iff.mpr bareWords]

/-- **The table from print is that of the lines that are not empty**, and it is equal to the table
from the reply exactly if empty lines make no difference; without empty lines the two are the same
table. -/
theorem raw_and_reply_agree_iff (three : r.code.HasThreeDigits)
    (clean : ∀ text ∈ r.message, '\n' ∉ text.toList ∧ '\r' ∉ text.toList) :
    parse r.render = ofAnnouncement (shown r.message) ∧
      ((∀ text ∈ r.message, text ≠ "") → parse r.render = ofReply r) ∧
      ((parse r.render).same (ofReply r) = true ↔ EmptiesHidden r.message) := by
  have printed := parse_render three clean
  refine ⟨printed, fun full => ?_, ?_⟩
  · rw [printed, shown_eq full, ofReply]
  · rw [printed, ofReply]
    exact same_shown_iff r.message

/-- The tables are the same if no line is empty, and equal if a blank line hides an empty one. -/
theorem blank_line_hides_empty :
    parse (Reply.render ⟨⟨250⟩, ["mail", "AUTH=PLAIN", "x y"]⟩) =
      ofReply ⟨⟨250⟩, ["mail", "AUTH=PLAIN", "x y"]⟩ ∧
    (parse (Reply.render ⟨⟨250⟩, ["", "\t", "DSN", " "]⟩)).same
      (ofReply ⟨⟨250⟩, ["", "\t", "DSN", " "]⟩) = true := by
  constructor
  · exact (raw_and_reply_agree_iff (r := ⟨⟨250⟩, ["mail", "AUTH=PLAIN", "x y"]⟩)
      ⟨by decide, by decide⟩ (by decide)).2.1 (by decide)
  · refine (raw_and_reply_agree_iff (r := ⟨⟨250⟩, ["", "\t", "DSN", " "]⟩)
      ⟨by decide, by decide⟩ (by decide)).2.2.mpr ?_
    have cut : shown ["", "\t", "DSN", " "] = "\t" :: ["DSN", " "] := by decide
    exact .behind cut rfl ⟨" ", by decide, rfl⟩

/-- **Print and reply do not always agree**: behind an empty greeting line an extension is taken
for the name. -/
theorem extension_taken_for_name :
    parse (Reply.render ⟨⟨250⟩, ["", "PIPELINING"]⟩) = ⟨"PIPELINING", []⟩ ∧
      ofReply ⟨⟨250⟩, ["", "PIPELINING"]⟩ = ⟨"", [.pipelining]⟩ ∧
      (parse (Reply.render ⟨⟨250⟩, ["", "PIPELINING"]⟩)).same
        (ofReply ⟨⟨250⟩, ["", "PIPELINING"]⟩) = false :=
  ⟨by decide, by decide, by decide⟩

end Capabilities

end SmtpLink
