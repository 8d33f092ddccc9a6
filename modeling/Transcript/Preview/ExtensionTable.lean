/-!
# Known extensions

The extensions that previews can be made with, and the options that each of them takes.
-/

namespace Transcript.Preview

/-- The families of extensions. -/
inductive Family where
  /-- Extensions that are also known by a short name. -/
  | standard
  /-- Further extensions. -/
  | further
  deriving DecidableEq

/-- An extension. -/
structure Extension where
  /-- Its family. -/
  family : Family
  /-- Its name in the family. -/
  name : String
  /-- The member of its module that makes it. -/
  maker : String
  /-- Options that are truth values. -/
  flags : List String := []
  /-- Options that are truth values or nothing. -/
  lenientFlags : List String := []
  /-- Options that take any value. -/
  others : List String := []
  /-- Whether it takes any other option, too. -/
  isOpen : Bool := false

/-- The extensions that are also known by a short name. -/
def standardExtensions : List Extension := [
  { family := .standard, name := "abbr", maker := "AbbrExtension", others := ["glossary"] },
  { family := .standard, name := "admonition", maker := "AdmonitionExtension" },
  { family := .standard, name := "attr_list", maker := "AttrListExtension" },
  { family := .standard, name := "codehilite", maker := "CodeHiliteExtension"
    flags := ["guess_lang", "noclasses", "use_pygments"], lenientFlags := ["linenums"]
    others := ["css_class", "pygments_style", "lang_prefix", "pygments_formatter"]
    isOpen := true },
  { family := .standard, name := "def_list", maker := "DefListExtension" },
  { family := .standard, name := "extra", maker := "ExtraExtension", isOpen := true },
  { family := .standard, name := "fenced_code", maker := "FencedCodeExtension"
    others := ["lang_prefix"] },
  { family := .standard, name := "footnotes", maker := "FootnoteExtension"
    flags := ["UNIQUE_IDS", "USE_DEFINITION_ORDER"]
    others := ["PLACE_MARKER", "BACKLINK_TEXT", "SUPERSCRIPT_TEXT", "BACKLINK_TITLE",
      "SEPARATOR"] },
  { family := .standard, name := "legacy_attrs", maker := "LegacyAttrExtension" },
  { family := .standard, name := "legacy_em", maker := "LegacyEmExtension" },
  { family := .standard, name := "md_in_html", maker := "MarkdownInHtmlExtension" },
  { family := .standard, name := "meta", maker := "MetaExtension" },
  { family := .standard, name := "nl2br", maker := "Nl2BrExtension" },
  { family := .standard, name := "sane_lists", maker := "SaneListExtension" },
  { family := .standard, name := "smarty", maker := "SmartyExtension"
    flags := ["smart_quotes", "smart_angled_quotes", "smart_dashes", "smart_ellipses"]
    others := ["substitutions"] },
  { family := .standard, name := "tables", maker := "TableExtension"
    flags := ["use_align_attribute"] },
  { family := .standard, name := "toc", maker := "TocExtension"
    flags := ["anchorlink", "permalink_leading"]
    others := ["marker", "title", "title_class", "toc_class", "anchorlink_class", "permalink",
      "permalink_class", "permalink_title", "baselevel", "slugify", "separator", "toc_depth"] },
  { family := .standard, name := "wikilinks", maker := "WikiLinkExtension"
    others := ["base_url", "end_url", "html_class", "build_url"] }]

/-- The further extensions. -/
def furtherExtensions : List Extension := [
  { family := .further, name := "arithmatex", maker := "ArithmatexExtension"
    flags := ["smart_dollar", "generic", "preview"]
    others := ["tex_inline_wrap", "tex_block_wrap", "block_syntax", "inline_syntax"] },
  { family := .further, name := "b64", maker := "B64Extension"
    others := ["base_path", "root_path"] },
  { family := .further, name := "betterem", maker := "BetterEmExtension"
    others := ["smart_enable"] },
  { family := .further, name := "caret", maker := "InsertSupExtension"
    flags := ["smart_insert", "insert", "superscript"] },
  { family := .further, name := "critic", maker := "CriticExtension"
    flags := ["raw_view"], others := ["mode"] },
  { family := .further, name := "details", maker := "DetailsExtension" },
  { family := .further, name := "emoji", maker := "EmojiExtension"
    flags := ["remove_variation_selector", "strict"]
    others := ["emoji_index", "emoji_generator", "title", "alt", "options"] },
  { family := .further, name := "escapeall", maker := "EscapeAllExtension"
    flags := ["hardbreak", "nbsp"] },
  { family := .further, name := "extra", maker := "ExtraExtension", isOpen := true },
  { family := .further, name := "highlight", maker := "HighlightExtension"
    flags := ["use_pygments", "guess_lang", "noclasses", "code_attr_on_pre", "auto_title",
      "anchor_linenums", "pygments_lang_class", "stripnl"]
    lenientFlags := ["linenums"]
    others := ["css_class", "pygments_style", "linenums_style", "linenums_special",
      "linenums_class", "extend_pygments_lang", "language_prefix", "auto_title_map", "line_spans",
      "line_anchors", "default_lang"] },
  { family := .further, name := "inlinehilite", maker := "InlineHiliteExtension"
    others := ["style_plain_text", "css_class", "custom_inline"] },
  { family := .further, name := "keys", maker := "KeysExtension"
    flags := ["strict", "camel_case"], others := ["separator", "class", "key_map"] },
  { family := .further, name := "magiclink", maker := "MagiclinkExtension"
    flags := ["hide_protocol", "repo_url_shortener", "repo_url_shorthand", "social_url_shorthand",
      "social_url_shortener", "normalize_issue_symbols"]
    others := ["shortener_user_exclude", "provider", "labels", "user", "repo", "custom"] },
  { family := .further, name := "mark", maker := "MarkExtension", flags := ["smart_mark"] },
  { family := .further, name := "pathconverter", maker := "PathConverterExtension"
    flags := ["absolute"], others := ["base_path", "relative_path", "tags"] },
  { family := .further, name := "progressbar", maker := "ProgressBarExtension"
    flags := ["level_class"], others := ["add_classes", "progress_increment"] },
  { family := .further, name := "saneheaders", maker := "SaneHeadersExtension" },
  { family := .further, name := "smartsymbols", maker := "SmartSymbolsExtension"
    flags := ["trademark", "copyright", "registered", "care_of", "plusminus", "arrows", "notequal",
      "fractions", "ordinal_numbers"] },
  { family := .further, name := "snippets", maker := "SnippetExtension"
    flags := ["check_paths", "url_download", "dedent_subsections", "restrict_base_path"]
    others := ["base_path", "encoding", "auto_append", "url_max_size", "url_timeout",
      "url_request_headers"] },
  { family := .further, name := "striphtml", maker := "StripHtmlExtension"
    flags := ["strip_comments", "strip_js_on_attributes"], others := ["strip_attributes"] },
  { family := .further, name := "superfences", maker := "SuperFencesCodeExtension"
    flags := ["disable_indented_code_blocks", "preserve_tabs", "relaxed_headers"]
    others := ["custom_fences", "css_class"] },
  { family := .further, name := "tabbed", maker := "TabbedExtension"
    flags := ["alternate_style", "combine_header_slug"], others := ["slugify", "separator"] },
  { family := .further, name := "tasklist", maker := "TasklistExtension"
    flags := ["custom_checkbox", "clickable_checkbox"] },
  { family := .further, name := "tilde", maker := "DeleteSubExtension"
    flags := ["smart_delete", "delete", "subscript"] }]

end Transcript.Preview
