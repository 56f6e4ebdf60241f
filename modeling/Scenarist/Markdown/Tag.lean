/-
  Tag names — the names that make `<name` at the start of a line open a block of HTML.
-/
import Scenarist.Text.Basic

namespace Scenarist.Markdown

/-- Elements whose tag, opening or closing, starts a block of HTML that ends at a blank line. -/
def blockTagNames : List Text := [
    "address", "article", "aside", "base", "basefont", "blockquote", "body", "caption", "center",
    "col", "colgroup", "dd", "details", "dialog", "dir", "div", "dl", "dt", "fieldset",
    "figcaption", "figure", "footer", "form", "frame", "frameset", "h1", "h2", "h3", "h4", "h5",
    "h6", "head", "header", "hr", "html", "iframe", "legend", "li", "link", "main", "menu",
    "menuitem", "nav", "noframes", "ol", "optgroup", "option", "p", "param", "search", "section",
    "summary", "table", "tbody", "td", "tfoot", "th", "thead", "title", "tr", "track",
    "ul"].map String.toList

/-- Elements whose opening tag starts a block of HTML that ends with their closing tag. -/
def rawTagNames : List Text := ["pre", "style", "script", "textarea"].map String.toList

end Scenarist.Markdown
