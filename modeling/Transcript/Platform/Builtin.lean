import Transcript.Platform.Adapter

/-!
# The platforms

The profiles of the chat platforms.
-/

namespace Transcript.Adapter

/-- A weight in hundredths. -/
def hundredths (n : Nat) : Number.Amount :=
  .measured (.ofRat (n / 100))

/-- A platform about which nothing is known. -/
def generic : Adapter := { profile := {} }

/-- ChatGPT (chatgpt.com, chat.openai.com): rendered formulas, and code elements with language
classes. -/
def chatGPT : Adapter where
  profile := {
    name := "ChatGPT"
    hostnames := ["chatgpt.com", "chat.openai.com"]
    codeSelector := "pre code"
    signals := [
      ("[data-message-author-role]", hundredths 40),
      ("article[data-turn=\"assistant\"]", hundredths 20),
      (".markdown.prose", hundredths 25),
      (".katex", hundredths 10),
      ("pre code[class*=\"language-\"]", hundredths 5)] }

/-- Claude (claude.ai): rendered formulas; the language of code may stand on its wrapper. -/
def claude : Adapter where
  profile := {
    name := "Claude"
    hostnames := ["claude.ai"]
    signals := [
      (".font-claude-response", hundredths 45),
      ("[data-testid=\"user-message\"]", hundredths 25),
      ("[data-is-streaming]", hundredths 20),
      (".katex", hundredths 10)] }

/-- Deepseek (chat.deepseek.com): rendered formulas; the language of code stands in a banner. -/
def deepseek : Adapter where
  profile := {
    name := "Deepseek"
    hostnames := ["deepseek.com"]
    codeSelector := ".md-code-block pre, pre > code"
    codeWrapperSelectors := ["pre", ".md-code-block"]
    codeLabelSelectors := [
      (".md-code-block", ".md-code-block-infostring"),
      (".md-code-block", ".d813de27"),
      (".md-code-block", ".md-code-block-banner span")]
    signals := [
      (".ds-markdown", hundredths 45),
      (".md-code-block", hundredths 25),
      (".ds-think-content", hundredths 15),
      (".katex", hundredths 10)] }

/-- Gemini (gemini.google.com): an attribute keeps the source of each formula, and a header labels
code blocks. -/
def gemini : Adapter where
  profile := {
    name := "Gemini"
    hostnames := ["gemini.google.com"]
    maxLatexLength := 50000
    mathSelector := ".math-inline[data-math], .math-block[data-math], " ++
      ".katex:not(.math-inline .katex):not(.math-block .katex), " ++
      ".katex-display:not(.math-block .katex-display)"
    codeSelector := ".code-block code, .code-container, pre > code"
    displayClasses := ["math-block", "katex-display"]
    innerDisplay := some ".katex-display"
    latexAttributes := ["data-math", "data-latex-source"]
    glyphSelector := some ".katex-html"
    codeLabelSelectors := [
      (".code-block", ".code-block-decoration > span"),
      (".code-block", ".code-block-decoration")]
    signals := [
      ("model-response, user-query", hundredths 40),
      (".conversation-container", hundredths 25),
      (".math-inline, .math-block", hundredths 20),
      (".code-block", hundredths 10),
      ("[data-math]", hundredths 15)]
    normalizesSpacing := true }

end Transcript.Adapter
