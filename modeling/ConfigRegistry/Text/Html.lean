/-!
Text in pages. Five characters mean something in markup and are written as references; a page is
made of markup, which is fixed, and of text, which never becomes markup.
-/
namespace ConfigRegistry.Text.Html

def escapeChar : Char → List Char
  | '<' => "&lt;".toList
  | '>' => "&gt;".toList
  | '&' => "&amp;".toList
  | '"' => "&quot;".toList
  | '\x27' => "&#x27;".toList
  | c => [c]

def escape (l : List Char) : List Char := l.flatMap escapeChar

def unescape : List Char → List Char
  | '&' :: 'l' :: 't' :: ';' :: rest => '<' :: unescape rest
  | '&' :: 'g' :: 't' :: ';' :: rest => '>' :: unescape rest
  | '&' :: 'a' :: 'm' :: 'p' :: ';' :: rest => '&' :: unescape rest
  | '&' :: 'q' :: 'u' :: 'o' :: 't' :: ';' :: rest => '"' :: unescape rest
  | '&' :: '#' :: 'x' :: '2' :: '7' :: ';' :: rest => '\x27' :: unescape rest
  | c :: rest => c :: unescape rest
  | [] => []

inductive Piece where
  | markup (s : String)
  | text (s : String)
deriving DecidableEq, Repr

def Piece.render : Piece → String
  | .markup s => s
  | .text s => String.ofList (escape s.toList)

def render (pieces : List Piece) : String := String.join (pieces.map Piece.render)

/-- A field of a form that is sent along without being shown. -/
def hiddenField (name value : String) : List Piece :=
  [.markup ("    <input type=\"hidden\" name=\"" ++ name ++ "\" value=\""), .text value,
    .markup "\">\n"]

end ConfigRegistry.Text.Html
