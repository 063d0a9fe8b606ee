import UptimeAlert.Proofs.Template.Dictionary

namespace UptimeAlert.Template

open UptimeAlert.Text

namespace Tokens

variable {tokens : List (List Char)} {t t' text before before' after after' : List Char}

/-- A scan takes a token wherever it occurs, and cuts what stands before it and after it as if that
stood alone. -/
theorem pieces_occurrence (h : Tokens tokens) (ht : t ∈ tokens) (before after : List Char) :
    (Matcher.ofTokens tokens).pieces (before ++ t ++ after) =
      (Matcher.ofTokens tokens).pieces before ++
        .token t :: (Matcher.ofTokens tokens).pieces after := by
  obtain ⟨name, -, hname⟩ := h t ht
  have hopen : before ++ t ++ after = before ++ '{' :: '{' :: (name ++ ['}', '}'] ++ after) := by
    simp [hname, placeholder]
  have htoken : '{' :: '{' :: (name ++ ['}', '}'] ++ after) = t ++ after := by
    simp [hname, placeholder]
  have hhit : (Matcher.ofTokens tokens).at? (t ++ after) = some t := h.longestAt?_append ht after
  rw [hopen, h.braced.pieces_append_open, htoken, (Matcher.ofTokens tokens).pieces_token hhit]

/-- An occurrence of a token in the text is one of the pieces: none is hidden inside another. -/
theorem occurs_iff (h : Tokens tokens) :
    t ∈ tokens ∧ text = before ++ t ++ after ↔
      ∃ front back, (Matcher.ofTokens tokens).pieces text = front ++ .token t :: back ∧
        source front = before ∧ source back = after := by
  constructor
  · intro hoccurs
    obtain ⟨ht, rfl⟩ := hoccurs
    refine ⟨_, _, h.pieces_occurrence ht before after, ?_, ?_⟩
    · exact (Matcher.ofTokens tokens).source_pieces before
    · exact (Matcher.ofTokens tokens).source_pieces after
  · intro hfound
    obtain ⟨front, back, hsplit, rfl, rfl⟩ := hfound
    have hscan := (Matcher.ofTokens tokens).isScan_pieces text
    have hmem : .token t ∈ (Matcher.ofTokens tokens).pieces text := by simp [hsplit]
    refine ⟨mem_tokens_of_isScan hscan hmem, ?_⟩
    rw [← (Matcher.ofTokens tokens).source_pieces text, hsplit, source_append, source_token,
      List.append_assoc]

/-- Two occurrences of tokens are the same, or one of them ends before the other begins. -/
theorem occurrences_apart (h : Tokens tokens) (ht : t ∈ tokens) (ht' : t' ∈ tokens)
    (heq : text = before ++ t ++ after) (heq' : text = before' ++ t' ++ after') :
    before = before' ∧ t = t' ∨ before ++ t <+: before' ∨ before' ++ t' <+: before := by
  obtain ⟨front, back, hsplit, rfl, -⟩ := h.occurs_iff.mp ⟨ht, heq⟩
  obtain ⟨front', back', hsplit', rfl, -⟩ := h.occurs_iff.mp ⟨ht', heq'⟩
  exact tokens_apart (hsplit.symm.trans hsplit')

end Tokens

namespace Dictionary

/-- A substitution puts values for the tokens of one cut of the text, which stand exactly where
tokens occur; all else is copied. So each occurrence is replaced on its own, wherever it stands, and
no two of them meet. -/
structure PutsEveryToken (d : Dictionary) (missing text : List Char) : Prop where
  written : d.substitute missing text = assemble (d.valueText missing) (scan d.tokens text)
  source_eq : source (scan d.tokens text) = text
  position_iff : ∀ t before after, t ∈ d.tokens ∧ text = before ++ t ++ after ↔
    ∃ front back, scan d.tokens text = front ++ .token t :: back ∧ source front = before ∧
      source back = after
  replaced : ∀ t ∈ d.tokens, ∀ before after, text = before ++ t ++ after →
    d.substitute missing text =
      d.substitute missing before ++ d.valueText missing t ++ d.substitute missing after
  copied : (∀ t ∈ d.tokens, ¬ t <:+: text) → d.substitute missing text = text
  apart : ∀ t ∈ d.tokens, ∀ t' ∈ d.tokens, ∀ before after before' after',
    text = before ++ t ++ after → text = before' ++ t' ++ after' →
      before = before' ∧ t = t' ∨ before ++ t <+: before' ∨ before' ++ t' <+: before

/-- No occurrence of a token of a built dictionary is passed over. -/
theorem putsEveryToken_of_build {monitor : Option Monitor} {heartbeat : Option Heartbeat}
    {d : Dictionary} (h : build monitor heartbeat = .ok d) (missing text : List Char) :
    d.PutsEveryToken missing text := by
  have htokens : Tokens d.tokens := tokens_build h
  have hscan : scan d.tokens text = (Matcher.ofTokens d.tokens).pieces text :=
    scan_eq_pieces htokens.nil_not_mem text
  constructor
  · rfl
  · rw [hscan, Matcher.source_pieces]
  · intro t before after
    rw [hscan]
    exact htokens.occurs_iff
  · intro t ht before after heq
    subst heq
    simp only [substitute_eq_pieces htokens.nil_not_mem]
    rw [htokens.pieces_occurrence ht, assemble_append, assemble_token, List.append_assoc]
  · intro hnone
    rw [substitute_eq_pieces htokens.nil_not_mem, pieces_of_tokenFree hnone, assemble_literals]
  · intro t ht t' ht' before after before' after' heq heq'
    exact htokens.occurrences_apart ht ht' heq heq'

/-- A token between single braces, one inside the name of another, and two of which the name of one
begins with that of the other; a placeholder of no token stays. -/
theorem putsEveryToken_of_build_nested :
    let monitor : Monitor :=
      ⟨.null, .text "api", .text "http", .text "https://a", .text "b", .null, .null⟩
    let heartbeat : Heartbeat := ⟨.null, .int 1, .null, .null, .int 7, .null, .null⟩
    let text := ("\x7b\x7b\x7bNAME\x7d\x7d\x7d \x7b\x7bPI\x7b\x7bPING\x7d\x7dNG\x7d\x7d " ++
      "\x7b\x7bHOSTNAME\x7d\x7d\x7b\x7bHOSTNAME_OR_URL\x7d\x7d \x7b\x7bTIME:UTC\x7d\x7d").toList
    ∃ d, build (some monitor) (some heartbeat) = .ok d ∧
      d.substitute [] text =
        "\x7bapi\x7d \x7b\x7bPI7NG\x7d\x7d bhttps://a \x7b\x7bTIME:UTC\x7d\x7d".toList ∧
      d.PutsEveryToken [] text := by
  intro monitor heartbeat text
  refine ⟨_, rfl, ?_, ?_⟩
  · decide +kernel
  · have hbuild : build (some monitor) (some heartbeat) = .ok _ := rfl
    exact putsEveryToken_of_build hbuild [] text

end Dictionary

end UptimeAlert.Template
