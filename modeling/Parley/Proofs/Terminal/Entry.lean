import Parley.Proofs.Text.Blank
import Parley.Terminal.Entry

/-!
# The grammar of input lines

What a trimmed line may look like, and what it then asks for. Every line asks for exactly one thing
by this grammar, and that is what is made of the line.
-/

namespace Parley.Terminal

open Text (AllBlank NoBlank IsTrimmed)

/-- A run of blanks, at least one. -/
structure IsGap (text : List Char) : Prop where
  blank : AllBlank text
  notEmpty : text ≠ []

/-- Characters other than blanks, at least one. -/
structure IsWord (text : List Char) : Prop where
  noBlank : NoBlank text
  notEmpty : text ≠ []

/-- A text that something is said with: trimmed, and not empty. -/
structure IsSaying (text : List Char) : Prop where
  trimmed : IsTrimmed text
  notEmpty : text ≠ []

/-- The name is what stands between the slash at the start and the first blank. -/
inductive Names (name : String) : List Char → Prop where
  | alone (noBlank : NoBlank name.toList) : Names name ('/' :: name.toList)
  | before {blank : Char} {arguments : List Char} (noBlank : NoBlank name.toList)
      (isBlank : Text.isBlank blank = true) :
      Names name ('/' :: (name.toList ++ blank :: arguments))

/-- A picture is to be sent with a text. -/
def Pictures (path text : String) (line : List Char) : Prop :=
  ∃ gap between, IsGap gap ∧ IsWord path.toList ∧ IsGap between ∧ IsSaying text.toList ∧
    line = '/' :: ("image".toList ++ (gap ++ (path.toList ++ (between ++ text.toList))))

def commandNames : List String :=
  ["image", "disconnect", "reconnect", "state", "help", "quit", "exit"]

inductive Asks : List Char → Entry → Prop where
  | empty : Asks [] .empty
  | say {text : String} (notEmpty : text.toList ≠ []) (plain : text.toList.head? ≠ some '/') :
      Asks text.toList (.say text)
  | image {line : List Char} {path text : String} (pictures : Pictures path text line) :
      Asks line (.image path text)
  | disconnect {line : List Char} (names : Names "disconnect" line) : Asks line .disconnect
  | reconnect {line : List Char} (names : Names "reconnect" line) : Asks line .reconnect
  | state {line : List Char} (names : Names "state" line) : Asks line .state
  | help {line : List Char} (names : Names "help" line) : Asks line .help
  | quit {line : List Char} (names : Names "quit" line ∨ Names "exit" line) : Asks line .quit
  | misused {line : List Char} (names : Names "image" line)
      (other : ∀ path text, ¬ Pictures path text line) : Asks line (.invalid imageUsage)
  | unknown {line : List Char} {name : String} (names : Names name line)
      (other : name ∉ commandNames) :
      Asks line (.invalid ("unknown command /" ++ name ++ ", try /help"))

/-- A command is its name, alone or before a blank and arguments. -/
theorem command_of_split {command name arguments : List Char}
    (split : (Text.splitAtBlank? command).getD (command, []) = (name, arguments)) :
    NoBlank name ∧ ((command = name ∧ arguments = []) ∨
      ∃ blank, Text.isBlank blank = true ∧ command = name ++ blank :: arguments) := by
  rcases Text.noBlank_or_exists_word command with
    noBlank | ⟨word, blank, after, noBlank, isBlank, rfl⟩
  · rw [Text.splitAtBlank?_of_noBlank noBlank, Option.getD_none] at split
    obtain ⟨rfl, rfl⟩ := Prod.mk.inj split
    exact ⟨noBlank, Or.inl ⟨rfl, rfl⟩⟩
  · rw [Text.splitAtBlank?_word noBlank isBlank, Option.getD_some] at split
    obtain ⟨rfl, rfl⟩ := Prod.mk.inj split
    exact ⟨noBlank, Or.inr ⟨blank, isBlank, rfl⟩⟩

theorem names_of_split {command arguments : List Char} {name : String}
    (split : (Text.splitAtBlank? command).getD (command, []) = (name.toList, arguments)) :
    Names name ('/' :: command) := by
  obtain ⟨noBlank, ⟨rfl, -⟩ | ⟨blank, isBlank, rfl⟩⟩ := command_of_split split
  · exact .alone noBlank
  · exact .before noBlank isBlank

theorem Names.exists_split {name : String} {line : List Char} (names : Names name line) :
    ∃ command arguments, line = '/' :: command ∧
      (Text.splitAtBlank? command).getD (command, []) = (name.toList, arguments) := by
  cases names with
  | alone noBlank =>
      refine ⟨name.toList, [], rfl, ?_⟩
      rw [Text.splitAtBlank?_of_noBlank noBlank, Option.getD_none]
  | @before blank arguments noBlank isBlank =>
      refine ⟨name.toList ++ blank :: arguments, arguments, rfl, ?_⟩
      rw [Text.splitAtBlank?_word noBlank isBlank, Option.getD_some]

/-! ## Pictures -/

theorem IsGap.exists_cons {gap : List Char} (isGap : IsGap gap) :
    ∃ blank rest, gap = blank :: rest ∧ Text.isBlank blank = true ∧ AllBlank rest := by
  obtain ⟨blank, rest, rfl⟩ := List.exists_cons_of_ne_nil isGap.notEmpty
  obtain ⟨isBlank, allBlank⟩ := List.forall_mem_cons.mp isGap.blank
  exact ⟨blank, rest, rfl, isBlank, allBlank⟩

/-- A word and a saying, with a gap between them, are trimmed. -/
theorem isTrimmed_between {word said : List Char} (between : List Char) (isWord : IsWord word)
    (isSaying : IsSaying said) : IsTrimmed (word ++ (between ++ said)) where
  starts := by
    intro character first
    obtain ⟨head, rest, rfl⟩ := List.exists_cons_of_ne_nil isWord.notEmpty
    exact isWord.noBlank character (by simp_all)
  ends := by
    intro character last
    obtain ⟨final, isFinal⟩ : ∃ final, said.getLast? = some final :=
      Option.isSome_iff_exists.mp (by simpa using isSaying.notEmpty)
    rw [List.getLast?_append, List.getLast?_append, isFinal, Option.some_or, Option.some_or] at last
    exact isSaying.trimmed.ends character (isFinal.trans last)

namespace Entry

theorem ofImageArguments_between {path between said : List Char} (isWord : IsWord path)
    (isGap : IsGap between) (isSaying : IsSaying said) :
    ofImageArguments (path ++ (between ++ said)) =
      .image (String.ofList path) (String.ofList said) := by
  obtain ⟨blank, rest, rfl, isBlank, allBlank⟩ := isGap.exists_cons
  have trimmed := Text.trim_of_blanks_before allBlank isSaying.trimmed
  have notEmpty : said.isEmpty = false := by simpa using isSaying.notEmpty
  rw [ofImageArguments, List.cons_append, Text.splitAtBlank?_word isWord.noBlank isBlank]
  simp only [trimmed, notEmpty, Bool.false_eq_true, if_false]

theorem ofCommand_of_pictures {path text : String} {command : List Char}
    (pictures : Pictures path text ('/' :: command)) : ofCommand command = .image path text := by
  obtain ⟨gap, between, isGap, isWord, isBetween, isSaying, shape⟩ := pictures
  obtain rfl := (List.cons.inj shape).2
  obtain ⟨blank, rest, rfl, isBlank, allBlank⟩ := isGap.exists_cons
  have trimmed := Text.trim_of_blanks_before allBlank (isTrimmed_between between isWord isSaying)
  rw [ofCommand, List.cons_append, Text.splitAtBlank?_word (by decide) isBlank]
  simp only [Option.getD_some, String.ofList_toList, trimmed]
  rw [ofImageArguments_between isWord isBetween isSaying, String.ofList_toList,
    String.ofList_toList]

theorem ofImageArguments_eq (arguments : List Char) :
    (∃ path text, ofImageArguments arguments = .image path text) ∨
      ofImageArguments arguments = .invalid imageUsage := by
  unfold ofImageArguments
  split
  · simp only
    split
    · exact Or.inr rfl
    · exact Or.inl ⟨_, _, rfl⟩
  · exact Or.inr rfl

/-- What is read as a picture is written as one, since a trimmed line does not end in a blank. -/
theorem pictures_of_ofImageArguments {blank : Char} {arguments : List Char} {path text : String}
    (isBlank : Text.isBlank blank = true)
    (trimmed : IsTrimmed ('/' :: ("image".toList ++ blank :: arguments)))
    (read : ofImageArguments (Text.trim arguments) = .image path text) :
    Pictures path text ('/' :: ("image".toList ++ blank :: arguments)) := by
  obtain ⟨before, after, blankBefore, blankAfter, whole⟩ := Text.exists_trim arguments
  have argumentsTrimmed := Text.isTrimmed_trim arguments
  generalize Text.trim arguments = kept at read whole argumentsTrimmed
  rcases Text.noBlank_or_exists_word kept with
    noBlank | ⟨word, first, rest, noBlank, isFirst, rfl⟩
  · rw [ofImageArguments, Text.splitAtBlank?_of_noBlank noBlank] at read
    cases read
  · rw [ofImageArguments, Text.splitAtBlank?_word noBlank isFirst] at read
    simp only at read
    split at read
    · cases read
    next isSaid =>
      obtain ⟨rfl, rfl⟩ := Entry.image.inj read
      obtain ⟨ahead, behind, blankAhead, blankBehind, wholeRest⟩ := Text.exists_trim rest
      have notEmpty : word ≠ [] := by
        rintro rfl
        rw [argumentsTrimmed.starts first rfl] at isFirst
        cases isFirst
      obtain rfl : behind = [] := by
        have ends : IsTrimmed ((word ++ first :: (ahead ++ Text.trim rest)) ++ behind) := by
          rw [wholeRest] at argumentsTrimmed
          simpa using argumentsTrimmed
        exact Text.eq_nil_of_isTrimmed_append ends blankBehind
      obtain rfl : after = [] := by
        have ends : IsTrimmed
            (('/' :: ("image".toList ++ blank :: (before ++ (word ++ first :: rest)))) ++
              after) := by
          rw [whole] at trimmed
          simpa using trimmed
        exact Text.eq_nil_of_isTrimmed_append ends blankAfter
      refine ⟨blank :: before, first :: ahead, ⟨?_, List.cons_ne_nil _ _⟩, ⟨?_, ?_⟩,
        ⟨?_, List.cons_ne_nil _ _⟩, ⟨?_, ?_⟩, ?_⟩
      · exact List.forall_mem_cons.mpr ⟨isBlank, blankBefore⟩
      · rwa [String.toList_ofList]
      · rwa [String.toList_ofList]
      · exact List.forall_mem_cons.mpr ⟨isFirst, blankAhead⟩
      · rw [String.toList_ofList]
        exact Text.isTrimmed_trim rest
      · rw [String.toList_ofList]
        simpa using isSaid
      · rw [List.append_nil] at whole wholeRest
        rw [@String.toList_ofList word, @String.toList_ofList (Text.trim rest), whole,
          List.cons_append, List.cons_append, ← wholeRest]

/-! ## Lines -/

/-- A line that begins like a picture asks for one, or for nothing that can be done. -/
theorem asks_ofImageArguments {command arguments : List Char}
    (trimmed : IsTrimmed ('/' :: command))
    (split : (Text.splitAtBlank? command).getD (command, []) = ("image".toList, arguments)) :
    Asks ('/' :: command) (ofImageArguments (Text.trim arguments)) := by
  rcases ofImageArguments_eq (Text.trim arguments) with ⟨path, text, isImage⟩ | isInvalid
  · rw [isImage]
    obtain ⟨-, ⟨-, rfl⟩ | ⟨blank, isBlank, rfl⟩⟩ := command_of_split split
    · cases isImage
    · exact .image (pictures_of_ofImageArguments isBlank trimmed isImage)
  · rw [isInvalid]
    refine .misused (names_of_split split) fun path text pictures => ?_
    have isImage := ofCommand_of_pictures pictures
    rw [ofCommand, split] at isImage
    simp only [String.ofList_toList, isInvalid] at isImage
    cases isImage

/-- What is made of a trimmed command is what it asks for. -/
theorem asks_ofCommand {command : List Char} (trimmed : IsTrimmed ('/' :: command)) :
    Asks ('/' :: command) (ofCommand command) := by
  obtain ⟨name, arguments, split⟩ : ∃ (name : String) (arguments : List Char),
      (Text.splitAtBlank? command).getD (command, []) = (name.toList, arguments) :=
    ⟨String.ofList _, _, by rw [String.toList_ofList]⟩
  have names := names_of_split split
  rw [ofCommand, split]
  simp only [String.ofList_toList]
  split
  · exact asks_ofImageArguments trimmed split
  · exact .disconnect names
  · exact .reconnect names
  · exact .state names
  · exact .help names
  · exact .quit (Or.inl names)
  · exact .quit (Or.inr names)
  · refine .unknown names ?_
    simp_all [commandNames]

theorem asks_ofLine (line : String) : Asks (Text.trim line.toList) (ofLine line) := by
  have trimmed := Text.isTrimmed_trim line.toList
  rw [ofLine]
  generalize Text.trim line.toList = text at trimmed
  cases text with
  | nil => exact .empty
  | cons character rest =>
      by_cases isSlash : character = '/'
      · subst isSlash
        exact asks_ofCommand trimmed
      · have plain : (String.ofList (character :: rest)).toList.head? ≠ some '/' := by
          simpa using isSlash
        have said := Asks.say (by simp) plain
        rw [String.toList_ofList] at said
        split
        next isEmpty => cases isEmpty
        next isCommand => exact absurd (List.cons.inj isCommand).1 isSlash
        · exact said

theorem ofLine_of_command {line : String} {command : List Char}
    (shape : Text.trim line.toList = '/' :: command) : ofLine line = ofCommand command := by
  rw [ofLine, shape]
  rfl

/-- A line asks for one thing only. -/
theorem ofLine_of_asks {line : String} {entry : Entry}
    (asks : Asks (Text.trim line.toList) entry) : ofLine line = entry := by
  generalize shape : Text.trim line.toList = text at asks
  cases asks with
  | empty => rw [ofLine, shape]
  | say notEmpty plain =>
      rw [ofLine, shape]
      split
      next isEmpty => exact absurd isEmpty notEmpty
      next isCommand => exact absurd (by rw [isCommand]; rfl) plain
      · rw [String.ofList_toList]
  | image pictures =>
      obtain ⟨gap, between, isGap, isWord, isBetween, isSaying, whole⟩ := id pictures
      rw [ofLine_of_command (shape.trans whole)]
      exact ofCommand_of_pictures (whole ▸ pictures)
  | disconnect names | reconnect names | state names | help names =>
      obtain ⟨command, arguments, isCommand, split⟩ := names.exists_split
      rw [ofLine_of_command (shape.trans isCommand), ofCommand, split]
      simp
  | quit names =>
      rcases names with names | names
      all_goals
        obtain ⟨command, arguments, isCommand, split⟩ := names.exists_split
        rw [ofLine_of_command (shape.trans isCommand), ofCommand, split]
        simp
  | misused names other =>
      obtain ⟨command, arguments, isCommand, split⟩ := names.exists_split
      have made : ofLine line = ofImageArguments (Text.trim arguments) := by
        rw [ofLine_of_command (shape.trans isCommand), ofCommand, split]
        simp
      have asksToo := asks_ofLine line
      rw [shape, made] at asksToo
      rw [made]
      rcases ofImageArguments_eq (Text.trim arguments) with ⟨path, said, isImage⟩ | isInvalid
      · rw [isImage] at asksToo
        cases asksToo with
        | image pictures => exact absurd pictures (other path said)
      · exact isInvalid
  | @unknown _ name names other =>
      obtain ⟨command, arguments, isCommand, split⟩ := names.exists_split
      rw [ofLine_of_command (shape.trans isCommand), ofCommand, split]
      simp only [String.ofList_toList]
      split
      case h_8 => rfl
      all_goals exact absurd (by decide) other

/-- Every line asks for exactly what the grammar says of it without the blanks around it, so these
blanks make no difference. A path that is a word and a text without blanks at its ends come back
from the line that names them. -/
theorem lines_follow_grammar :
    (∀ line entry, ofLine line = entry ↔ Asks (Text.trim line.toList) entry) ∧
    (∀ line, ofLine (String.ofList (Text.trim line.toList)) = ofLine line) ∧
    (∀ path text : String, IsWord path.toList → IsSaying text.toList →
      ofLine ("/image " ++ path ++ " " ++ text) = .image path text) := by
  refine ⟨fun line entry => ⟨fun made => made ▸ asks_ofLine line, ofLine_of_asks⟩, ?_, ?_⟩
  · intro line
    refine ofLine_of_asks ?_
    rw [String.toList_ofList, Text.trim_of_isTrimmed (Text.isTrimmed_trim line.toList)]
    exact asks_ofLine line
  · intro path text isWord isSaying
    have isGap : IsGap [' '] := ⟨by simp [AllBlank, Text.isBlank], List.cons_ne_nil _ _⟩
    have whole : ("/image " ++ path ++ " " ++ text).toList =
        '/' :: ("image".toList ++ ([' '] ++ (path.toList ++ ([' '] ++ text.toList)))) := by
      simp
    have trimmed : IsTrimmed ("/image " ++ path ++ " " ++ text).toList := by
      have isCommand : IsWord ('/' :: "image".toList) := ⟨by decide, List.cons_ne_nil _ _⟩
      have ends := isTrimmed_between ([' '] ++ (path.toList ++ [' '])) isCommand isSaying
      rw [whole]
      simpa using ends
    refine ofLine_of_asks (.image ⟨[' '], [' '], isGap, isWord, isGap, isSaying, ?_⟩)
    rw [Text.trim_of_isTrimmed trimmed, whole]

/-- A path with a slash and a text with blanks inside, between white space of other kinds. -/
theorem follow_grammar_of_picture :
    IsWord "/tmp/é.png".toList ∧ IsSaying "what \u2003is this?".toList ∧
      ofLine ("/image " ++ "/tmp/é.png" ++ " " ++ "what \u2003is this?") =
        .image "/tmp/é.png" "what \u2003is this?" ∧
      ofLine "\u3000/image\u00a0 /tmp/é.png\twhat \u2003is this?\u0085" =
        .image "/tmp/é.png" "what \u2003is this?" := by
  obtain ⟨follows, -, comesBack⟩ := lines_follow_grammar
  have isWord : IsWord "/tmp/é.png".toList := ⟨by decide, by decide⟩
  have isSaying : IsSaying "what \u2003is this?".toList :=
    ⟨⟨by simp; decide, by simp; decide⟩, by decide⟩
  refine ⟨isWord, isSaying, comesBack _ _ isWord isSaying, (follows _ _).mpr ?_⟩
  have isGap : IsGap ['\u00a0', ' '] := ⟨by decide, by decide⟩
  have isBetween : IsGap ['\t'] := ⟨by decide, by decide⟩
  exact .image ⟨['\u00a0', ' '], ['\t'], isGap, isWord, isBetween, isSaying, by decide⟩

end Entry

end Parley.Terminal
