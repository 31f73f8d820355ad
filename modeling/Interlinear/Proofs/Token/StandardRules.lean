import Interlinear.Token.Standard

set_option autoImplicit false

/-! # The standard rules, one by one

What the patterns of the standard rules stand for. Each rule is given by the expression that its
pattern is read as, and the rules of the standard tokenizer are compared with them once
(`Tokenizer.rules_standard`). What is to be known of the standard rules is then read off these
expressions, and no pattern has to be read again. -/

namespace Interlinear

/-! ## Expressions -/

namespace Regex

/-- What matches `r`, or nothing. -/
def optional (r : Regex) : Regex := .alt r .empty

/-- What matches `r` and then the given characters. -/
def thenText (r : Regex) (cs : List Char) : Regex :=
  cs.foldl (fun r c => .seq r (.set (.single c))) r

/-- What matches `r`, the opening text, as few characters of a class as can be, and the closing
text. -/
def enclosed (r : Regex) (opening : List Char) (s : CharClass) (closing : List Char) : Regex :=
  .thenText (.seq (.thenText r opening) (.alt .empty (.plus false (.set s)))) closing

/-- A carriage return, if there is one. -/
def optionalReturn : Regex := .optional (.set (.single '\r'))

end Regex

namespace CharClass

/-- The class of a character and others. -/
def oneOf (c : Char) (cs : List Char) : CharClass :=
  cs.foldl (fun s c => .union s (.single c)) (.single c)

/-- Adds the marks that may stand in a word to a class. -/
def withMarks (s : CharClass) : CharClass :=
  [.single '\u0301', .single '\u0302', .single '\u030c', .single '\u0308', .range '\u07eb' '\u07f3',
    .single '\u07f6', .single '\u07fa', .single '-'].foldl .union s

/-- Word characters and the marks that may stand between them. -/
def wordAndMarks : CharClass := withMarks (.union .word (.single '\u0300'))

/-- The apostrophes, among them those of N'Ko, which are word characters. -/
def apostrophe : CharClass := oneOf '\'' ['\u2019', '\u07f4', '\u07f5']

end CharClass

/-! ## Rules -/

namespace Rule

/-- A pattern that matches where a token begins. -/
def patternOf (r : Regex) : Regex := .seq (.look .textStart) r

/-- A comment. -/
def comment : Rule where
  kind := .comment
  pattern := .enclosed (patternOf .empty) ['<', 'c', '>'] .any ['<', '/', 'c', '>']
  follow := none

/-- A change of the speaker. -/
def speaker : Rule where
  kind := .comment
  pattern := .enclosed (.look .textStart) ['<', 's', 'p', '>'] (.compl (.single '\n'))
    ['<', '/', 's', 'p', '>']
  follow := none

/-- A mark for the end of a sentence. -/
def mark : Rule where
  kind := .sentenceEnd
  pattern := .thenText (.look .textStart) ['<', 's', 't', '>']
  follow := none

/-- A mark of structure. -/
def tag : Rule where
  kind := .tag
  pattern := .enclosed (.look .textStart) ['<'] (.compl (.single '\n')) ['>']
  follow := none

/-- Several line ends in a row. -/
def lineEnds : Rule where
  kind := .paragraphBreak
  pattern := .seq (.seq (patternOf Regex.optionalReturn) (.set (.single '\n')))
    (.plus true (.seq Regex.optionalReturn (.set (.single '\n'))))
  follow := none

/-- The end of a line. -/
def lineEnd : Rule where
  kind := .lineBreak
  pattern := patternOf (.set (.oneOf '\r' ['\n']))
  follow := none

/-- Blank space. -/
def blanks : Rule where
  kind := .space
  pattern := patternOf (.plus true (.set .blank))
  follow := none

/-- The numero sign. -/
def numero : Rule where
  kind := .word
  pattern := .thenText (patternOf (.set (.oneOf 'n' ['N']))) ['\u00b0']
  follow := none

/-- An ordinal number. -/
def ordinal : Rule where
  kind := .word
  pattern := .thenText (patternOf (.plus true (.set .digit))) ['n', 'a', 'n']
  follow := none

/-- A number in digits. -/
def cardinal : Rule where
  kind := .cardinal
  pattern := patternOf (.plus true (.seq (.set .digit)
    (.optional (.seq (.set (.oneOf '-' ['.', ',', ':'])) (.set .digit)))))
  follow := none

/-- Initials. -/
def initials : Rule where
  kind := .word
  pattern := .seq (.thenText (patternOf (.set .word)) ['.'])
    (.plus true (.thenText (.set .word) ['.']))
  follow := none

/-- A word that ends with an apostrophe. -/
def elided : Rule where
  kind := .word
  pattern := .seq (patternOf (.plus true (.set .wordAndMarks))) (.set .apostrophe)
  follow := none

/-- A word. -/
def word : Rule where
  kind := .word
  pattern :=
    let mark := .optional (.set (.withMarks (.single '\u0300')))
    patternOf (.plus true (.seq (.seq (.set .word) mark) mark))
  follow := none

/-- The punctuation that ends sentences in Latin script, in Arabic script and in N'Ko. -/
def stops : CharClass := .oneOf '.' ['!', '?', '\u061f', '\u07f9']

/-- Punctuation before blank space. -/
def stop : Rule where
  kind := .sentenceEnd
  pattern := patternOf (.plus true (.set stops))
  follow := some (patternOf (.set (.union .blank (.single '\u200f'))))

/-- A colon at the end of a line. -/
def colon : Rule where
  kind := .sentenceEnd
  pattern := patternOf (.set (.single ':'))
  follow := some (.thenText
    (patternOf (.optional (.plus true (.set (.compl (.union (.compl .blank) (.single '\n')))))))
    ['\n'])

/-- Punctuation within a sentence. -/
def punctuation : Rule where
  kind := .punctuation
  pattern := patternOf (.plus true (.set (.oneOf ':'
    [';', ',', '\u061b', '\u060c', '\u07f8', '\u200f', '(', ')', '\x7b', '\x7d', '"'])))
  follow := none

/-- A character that has no rule of its own and is no word character. -/
def nonWord : Rule where
  kind := .other
  pattern := patternOf (.set (.compl .word))
  follow := none

/-- Any character. -/
def guard : Rule where
  kind := .other
  pattern := .seq (patternOf .empty) (.set .any)
  follow := none

/-- The standard rules, the more important ones first. -/
def standard : List Rule :=
  [comment, speaker, mark, tag, lineEnds, lineEnd, blanks, numero, ordinal, cardinal, initials,
    elided, word, stop, colon, punctuation, nonWord, guard]

end Rule

namespace Tokenizer

/-- **The standard patterns are read as these expressions.** -/
theorem rules_standard : standard.rules = Rule.standard := by decide +kernel

theorem standard_eq : standard = ⟨Rule.standard⟩ := by
  have hrules : ∀ t : Tokenizer, t.rules = Rule.standard → t = ⟨Rule.standard⟩ := by
    rintro ⟨rules⟩ rfl
    rfl
  exact hrules standard rules_standard

end Tokenizer

end Interlinear
