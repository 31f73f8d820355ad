import Interlinear.Proofs.Annotation.Framing
import Interlinear.Proofs.Command.Results

set_option autoImplicit false

/-! # The printed text, line by line

Without a grammar, and with dictionaries in the Toolbox format, what is printed of a text has one
line for each token, and one more after the last token of each sentence (`parse_line_by_line`). -/

namespace Interlinear.Command

variable {i : ParseInput}

theorem annotatorOf_eq_ok_iff (hgrammar : i.grammar = none) {a : Annotator} :
    annotatorOf i = .ok a ↔ ∃ u converters, unionOf i.dictionaries = .ok u ∧
      i.scripts.mapM Converter.named? = .ok converters ∧
      a = ⟨⟨u, [.apply 0 .lookup, .stop .resolved], i.toneless⟩, converters⟩ := by
  rw [annotatorOf, hgrammar]
  constructor
  · intro h
    obtain ⟨u, hu, h⟩ := Except.bind_eq_ok_iff.1 h
    obtain ⟨g, hg, h⟩ := Except.bind_eq_ok_iff.1 h
    obtain ⟨converters, hconverters, h⟩ := Except.bind_eq_ok_iff.1 h
    cases hg
    cases h
    exact ⟨u, converters, hu, hconverters, rfl⟩
  · rintro ⟨u, converters, hu, hconverters, rfl⟩
    refine Except.bind_eq_ok_iff.2 ⟨u, hu, Except.bind_eq_ok_iff.2 ⟨none, rfl, ?_⟩⟩
    exact Except.bind_eq_ok_iff.2 ⟨converters, hconverters, rfl⟩

/-- What comes of Toolbox files is on one line. -/
theorem oneLine_unionOf {fs : List InputFile} (hfs : ∀ f ∈ fs, f.isBinary = false) {u : Union}
    (hu : unionOf fs = .ok u) : u.OneLine := by
  refine Except.foldlM_preserves (P := Union.OneLine) ?_ Union.oneLine_empty hu
  intro f hf v w hv h
  obtain ⟨d, hd, h⟩ := Except.bind_eq_ok_iff.1 h
  cases h
  rw [InputFile.dictionary, hfs f hf] at hd
  exact hv.register (Toolbox.oneLine_of_dictionary_read hd)

theorem plain_of_annotatorOf (hgrammar : i.grammar = none)
    (hdictionaries : ∀ f ∈ i.dictionaries, f.isBinary = false) {a : Annotator}
    (h : annotatorOf i = .ok a) : a.Plain := by
  obtain ⟨u, converters, hu, hconverters, rfl⟩ := (annotatorOf_eq_ok_iff hgrammar).1 h
  refine ⟨?_, oneLine_unionOf hdictionaries hu, fun c hc => ?_⟩
  · -- The plan is a look-up and a stop.
    intro st hst t ht
    rcases List.mem_cons.1 hst with rfl | hst
    · exact (Option.some.inj ht).symm
    · rw [List.mem_singleton.1 hst] at ht
      cases ht
  · obtain ⟨name, -, hname⟩ := Except.exists_of_mem_mapM hconverters hc
    exact Converter.conservative_of_named? hname

theorem exists_annotatorOf_iff (hgrammar : i.grammar = none)
    (hdictionaries : ∀ f ∈ i.dictionaries, f.isBinary = false) :
    (∃ a, annotatorOf i = .ok a) ↔
      (∀ f ∈ i.dictionaries, ∃ d, (Toolbox.read f.bytes).dictionary = .ok d) ∧
      ∀ name ∈ i.scripts, ∃ c, Converter.named? name = .ok c := by
  have htoolbox : (∀ f ∈ i.dictionaries, ∃ d, (Toolbox.read f.bytes).dictionary = .ok d) ↔
      ∀ f ∈ i.dictionaries, ∃ d, f.dictionary = .ok d := by
    refine forall₂_congr fun f hf => ?_
    rw [InputFile.dictionary, hdictionaries f hf]
    rfl
  rw [htoolbox, ← exists_unionOf_iff, ← Except.exists_mapM_eq_ok_iff]
  constructor
  · rintro ⟨a, h⟩
    obtain ⟨u, converters, hu, hconverters, -⟩ := (annotatorOf_eq_ok_iff hgrammar).1 h
    exact ⟨⟨u, hu⟩, converters, hconverters⟩
  · rintro ⟨⟨u, hu⟩, converters, hconverters⟩
    exact ⟨_, (annotatorOf_eq_ok_iff hgrammar).2 ⟨u, converters, hu, hconverters, rfl⟩⟩

theorem ofUtf8_of_textOf {text : String} (h : textOf i = .ok text) :
    Text.ofUtf8 i.text = .ok text := by
  rw [textOf] at h
  cases hutf8 : Text.ofUtf8 i.text with
  | error e =>
      rw [hutf8] at h
      cases h
  | ok text' =>
      rw [hutf8] at h
      cases h
      rfl

/-- Something is printed if there is an annotator and a text, and then it is what the annotator makes
of the text. -/
theorem parse_eq_ok_iff {printed : String} : (parse i).finish.1 = .ok printed ↔
    ∃ a text, annotatorOf i = .ok a ∧ Text.ofUtf8 i.text = .ok text ∧
      printedText a text = printed := by
  rw [(yields_parse i).finish, Except.bind_eq_ok_iff]
  refine exists_congr fun a => ?_
  constructor
  · rintro ⟨ha, h⟩
    obtain ⟨text, htext, h⟩ := Except.bind_eq_ok_iff.1 h
    exact ⟨text, ha, ofUtf8_of_textOf htext, Except.ok.inj h⟩
  · rintro ⟨text, ha, htext, hprinted⟩
    have hinput : textOf i = .ok text := by
      rw [textOf, htext]
      rfl
    exact ⟨ha, Except.bind_eq_ok_iff.2 ⟨text, hinput, congrArg Except.ok hprinted⟩⟩

/-- **The text is printed line by line.** Without a grammar, and with files of the Toolbox format,
there is output if all files have dictionaries, all scripts have converters, and the input is text.
The lines of the output are those of the annotated sentences: one for each token, in order, and then
`EOS`. Nothing comes after the last line. So there are as many line feeds as there are tokens and
sentences. -/
theorem parse_line_by_line (hgrammar : i.grammar = none)
    (hdictionaries : ∀ f ∈ i.dictionaries, f.isBinary = false) :
    ((∃ printed, (parse i).finish.1 = .ok printed) ↔
      (∀ f ∈ i.dictionaries, ∃ d, (Toolbox.read f.bytes).dictionary = .ok d) ∧
      (∀ name ∈ i.scripts, ∃ c, Converter.named? name = .ok c) ∧
      ∃ text, Text.ofUtf8 i.text = .ok text) ∧
    ∀ printed, (parse i).finish.1 = .ok printed →
      ∃ annotator text sentences,
        (prepare i).finish.1 = .ok annotator ∧ Text.ofUtf8 i.text = .ok text ∧
        sentences = (Text.paragraphs (Text.decomposedCompat text)).flatMap annotator.annotate ∧
        printed.toList.splitOn '\n' =
          (sentences.flatMap fun s => s.tokens.map (·.line.toList) ++ ["EOS".toList]) ++ [[]] ∧
        printed.toList.count '\n' = (sentences.map fun s => s.tokens.length + 1).sum := by
  constructor
  · rw [← and_assoc, ← exists_annotatorOf_iff hgrammar hdictionaries]
    simp only [parse_eq_ok_iff]
    constructor
    · rintro ⟨printed, a, text, ha, htext, -⟩
      exact ⟨⟨a, ha⟩, text, htext⟩
    · rintro ⟨⟨a, ha⟩, text, htext⟩
      exact ⟨printedText a text, a, text, ha, htext, rfl⟩
  · intro printed hprinted
    obtain ⟨a, text, ha, htext, htextual⟩ := parse_eq_ok_iff.1 hprinted
    -- Every token of every paragraph is on one line, so the lines are those of the tokens.
    have hplain := plain_of_annotatorOf hgrammar hdictionaries ha
    have hlines : ∀ s ∈ sentencesOfText a text, ∀ t ∈ s.tokens, t.OneLine := by
      intro s hs
      obtain ⟨p, -, hs⟩ := List.mem_flatMap.1 hs
      exact hplain.oneLine_of_mem_annotate p s hs
    rw [← htextual, printedText]
    refine ⟨a, text, sentencesOfText a text, ?_, htext, rfl, ?_, count_printed hlines⟩
    · rw [(yields_prepare i).finish, ha]
    · rw [splitOn_printed hlines, List.map_flatMap]
      simp only [AnnotatedSentence.map_toList_lines]

/-- A text in two paragraphs, with a comment that goes over the end of a line. -/
def goats : ParseInput where
  dictionaries := [⟨"goats.txt", Text.utf8
    "\\lang emk\n\\name goats\n\\ver 1\n\n\\lx ba\n\\ps n\n\\ge goat\n"⟩]
  grammar := none
  scripts := ["emklatinold"]
  toneless := true
  text := Text.utf8 "Ba <c>two\nlines</c>! 7 ba.\n\nBa!\n"

theorem parse_goats : goats.grammar = none ∧ (∀ f ∈ goats.dictionaries, f.isBinary = false) ∧
    ∃ printed, (parse goats).finish.1 = .ok printed ∧ printed.toList.count '\n' = 4 + 4 + 3 := by
  have hdictionaries : ∀ f ∈ goats.dictionaries, f.isBinary = false := by
    rw [goats, List.forall_mem_singleton]
    decide
  obtain ⟨hexists, hlines⟩ := parse_line_by_line rfl hdictionaries
  have hread : ∀ f ∈ goats.dictionaries, ∃ d, (Toolbox.read f.bytes).dictionary = .ok d := by
    have hok : ∀ f ∈ goats.dictionaries, (Toolbox.read f.bytes).dictionary.isOk = true := by
      rw [goats, List.forall_mem_singleton]
      decide +kernel
    intro f hf
    cases hdictionary : (Toolbox.read f.bytes).dictionary with
    | ok d => exact ⟨d, rfl⟩
    | error e =>
        have hfalse := hok f hf
        rw [hdictionary] at hfalse
        cases hfalse
  have hscripts : ∀ name ∈ goats.scripts, ∃ c, Converter.named? name = .ok c := by
    rw [goats, List.forall_mem_singleton]
    exact ⟨Converter.maninkaOld, by rfl⟩
  have htext : Text.ofUtf8 goats.text = .ok "Ba <c>two\nlines</c>! 7 ba.\n\nBa!\n" := by
    decide +kernel
  have hsum : ((prepare goats).finish.1.toOption.map fun a =>
      (((Text.paragraphs (Text.decomposedCompat "Ba <c>two\nlines</c>! 7 ba.\n\nBa!\n")).flatMap
        a.annotate).map fun s => s.tokens.length + 1).sum) = some (4 + 4 + 3) := by
    unfold Annotator.annotate
    rw [Tokenizer.standard_eq]
    decide +kernel
  obtain ⟨printed, hprinted⟩ := hexists.2 ⟨hread, hscripts, _, htext⟩
  obtain ⟨a, text, sentences, ha, htext', hsentences, -, hcount⟩ := hlines printed hprinted
  obtain rfl := Except.ok.inj (htext.symm.trans htext')
  rw [ha] at hsum
  rw [hsentences] at hcount
  exact ⟨rfl, hdictionaries, printed, hprinted, hcount.trans (Option.some.inj hsum)⟩

end Interlinear.Command
