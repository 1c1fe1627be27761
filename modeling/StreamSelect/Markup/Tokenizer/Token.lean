import StreamSelect.Markup.Tokenizer.Tag

/-! Tokens of markup text. A token is read off the front of the text; together with the rest it
gives the text back. -/
namespace StreamSelect.Markup

inductive LexicalFault where
  | unknownMark
  | openComment
  | openCdata
  | openDoctype
  | openInstruction
  | openTag
  | namelessDoctype
  deriving Repr, DecidableEq, Inhabited

def LexicalFault.message : LexicalFault → String
  | .unknownMark => "syntax error: unknown or missed symbol in markup"
  | .openComment => "syntax error: comment not closed: `-->` not found before end of input"
  | .openCdata => "syntax error: CDATA not closed: `]]>` not found before end of input"
  | .openDoctype => "syntax error: DOCTYPE not closed: `>` not found before end of input"
  | .openInstruction =>
    "syntax error: processing instruction or xml declaration not closed: " ++
      "`?>` not found before end of input"
  | .openTag => "syntax error: tag not closed: `>` not found before end of input"
  | .namelessDoctype =>
    "ill-formed document: `<!DOCTYPE>` declaration does not contain a name of a document type"

inductive Token where
  | characters (raw : List Char)
  | cdata (raw : List Char)
  /-- The text after the keyword and the blanks that follow it. -/
  | doctype (raw : List Char)
  | comment (raw : List Char)
  | instruction (raw : List Char)
  | startTag (content : TagContent)
  | emptyTag (content : TagContent)
  | endTag (name : List Char)
  deriving Repr, Inhabited

/-- A token with the text it was read from and the text after it. -/
structure Lexeme where
  token : Token
  source : List Char
  rest : List Char
  deriving Repr, Inhabited

namespace Token

/-- Puts a character in front of the inside that has been found. -/
def withFirst (c : Char) (found : Option (List Char × List Char)) : Option (List Char × List Char) :=
  found.map fun parts => (c :: parts.1, parts.2)

/-- The inside of a tag up to the first closing bracket outside quotes, and the text after it. -/
def tagInside? : Option Char → List Char → Option (List Char × List Char)
  | _, [] => none
  | some quote, c :: text => withFirst c (tagInside? (if c = quote then none else some quote) text)
  | none, c :: text =>
    if c = '>' then some ([], text)
    else withFirst c (tagInside? (if c = '"' || c = '\'' then some c else none) text)

/-- The text up to the closing bracket that no opening bracket before it claims. -/
def balancedInside? : Nat → List Char → Option (List Char × List Char)
  | _, [] => none
  | 0, c :: text =>
    if c = '>' then some ([], text)
    else withFirst c (balancedInside? (if c = '<' then 1 else 0) text)
  | depth + 1, c :: text =>
    withFirst c (balancedInside?
      (if c = '<' then depth + 2 else if c = '>' then depth else depth + 1) text)

/-- The keyword of a document type, in any case, and the rest. -/
def doctypeRest? (text : List Char) : Option (List Char) :=
  if (text.take 7).map Char.toUpper = "DOCTYPE".toList then some (text.drop 7) else none

/-- Blanks at the end of the name in a closing tag do not count, unless there is nothing else. -/
def closingName (text : List Char) : List Char :=
  let name := Text.dropTrailing isBlank text
  if name.isEmpty then text else name

def lexeme (token : Token) (opening inside closing rest : List Char) : Lexeme :=
  ⟨token, opening ++ inside ++ closing, rest⟩

/-- Reads what follows an exclamation mark. -/
def readDeclared : List Char → Except LexicalFault Lexeme
  | '[' :: text =>
    match (Text.after? "CDATA[".toList text).bind (Text.splitAt? "]]>".toList) with
    | some (inside, rest) =>
      .ok (lexeme (.cdata inside) "<![CDATA[".toList inside "]]>".toList rest)
    | none => .error .openCdata
  | '-' :: text =>
    match (Text.after? ['-'] text).bind (Text.splitAt? "-->".toList) with
    | some (inside, rest) =>
      .ok (lexeme (.comment inside) "<!--".toList inside "-->".toList rest)
    | none => .error .openComment
  | c :: text =>
    if c = 'D' || c = 'd' then
      match balancedInside? 0 (c :: text) with
      | none => .error .openDoctype
      | some (inside, rest) =>
        match doctypeRest? inside with
        | none => .error .openDoctype
        | some named =>
          let raw := named.dropWhile isBlank
          if raw.isEmpty then .error .namelessDoctype
          else .ok (lexeme (.doctype raw) "<!".toList inside ['>'] rest)
    else .error .unknownMark
  | [] => .error .unknownMark

/-- Reads what follows a question mark. -/
def readInstruction (text : List Char) : Except LexicalFault Lexeme :=
  if text.head? = some '>' then .error .openInstruction
  else match Text.splitAt? "?>".toList text with
    | some (inside, rest) => .ok (lexeme (.instruction inside) "<?".toList inside "?>".toList rest)
    | none => .error .openInstruction

/-- The token that the inside of a tag stands for. -/
def ofTagInside (inside : List Char) : Token :=
  match inside with
  | '/' :: name => .endTag (closingName name)
  | _ =>
    if inside.getLast? = some '/' then .emptyTag ⟨inside.dropLast⟩ else .startTag ⟨inside⟩

def readTag (text : List Char) : Except LexicalFault Lexeme :=
  match tagInside? none text with
  | some (inside, rest) => .ok (lexeme (ofTagInside inside) ['<'] inside ['>'] rest)
  | none => .error .openTag

/-- Reads what follows an opening bracket. -/
def readMarkup : List Char → Except LexicalFault Lexeme
  | '!' :: text => readDeclared text
  | '?' :: text => readInstruction text
  | text => readTag text

/-- Reads the token in front of a text that is not empty. -/
def read (first : Char) (text : List Char) : Except LexicalFault Lexeme :=
  if first = '<' then readMarkup text
  else
    let raw := first :: text.takeWhile (· != '<')
    .ok ⟨.characters raw, raw, text.dropWhile (· != '<')⟩

/-! ### Tokens tile the text -/

theorem withFirst_eq_some {c : Char} {found : Option (List Char × List Char)}
    {inside rest : List Char} (h : withFirst c found = some (inside, rest)) :
    ∃ tail, inside = c :: tail ∧ found = some (tail, rest) := by
  obtain ⟨⟨tail, r⟩, hf, heq⟩ := Option.map_eq_some_iff.1 h
  obtain ⟨rfl, rfl⟩ : c :: tail = inside ∧ r = rest := by simpa using heq
  exact ⟨tail, rfl, hf⟩

theorem append_tagInside? {quote : Option Char} {text inside rest : List Char}
    (h : tagInside? quote text = some (inside, rest)) : inside ++ '>' :: rest = text := by
  fun_induction tagInside? quote text generalizing inside rest with
  | case1 => simp at h
  | case2 quote c text ih =>
    obtain ⟨tail, rfl, hf⟩ := withFirst_eq_some h
    simp [ih hf]
  | case3 text =>
    obtain ⟨rfl, rfl⟩ : [] = inside ∧ text = rest := by simpa using h
    rfl
  | case4 c text _ ih =>
    obtain ⟨tail, rfl, hf⟩ := withFirst_eq_some h
    simp [ih hf]

theorem append_balancedInside? {depth : Nat} {text inside rest : List Char}
    (h : balancedInside? depth text = some (inside, rest)) : inside ++ '>' :: rest = text := by
  fun_induction balancedInside? depth text generalizing inside rest with
  | case1 => simp at h
  | case2 text =>
    obtain ⟨rfl, rfl⟩ : [] = inside ∧ text = rest := by simpa using h
    rfl
  | case3 c text _ ih =>
    obtain ⟨tail, rfl, hf⟩ := withFirst_eq_some h
    simp [ih hf]
  | case4 depth c text ih =>
    obtain ⟨tail, rfl, hf⟩ := withFirst_eq_some h
    simp [ih hf]

theorem append_readDeclared {text : List Char} {l : Lexeme} (h : readDeclared text = .ok l) :
    l.source ++ l.rest = '<' :: '!' :: text := by
  unfold readDeclared at h
  split at h
  · split at h
    · rename_i heq
      cases h
      obtain ⟨t, ht, hs⟩ := Option.bind_eq_some_iff.1 heq
      simp [lexeme, ← Text.append_after? ht, ← Text.append_splitAt? hs]
    · cases h
  · split at h
    · rename_i heq
      cases h
      obtain ⟨t, ht, hs⟩ := Option.bind_eq_some_iff.1 heq
      simp [lexeme, ← Text.append_after? ht, ← Text.append_splitAt? hs]
    · cases h
  · split at h
    · split at h
      · cases h
      · rename_i heq
        split at h
        · cases h
        · simp only at h
          split at h
          · cases h
          · cases h
            simp [lexeme, ← append_balancedInside? heq]
    · cases h
  · cases h

theorem append_readInstruction {text : List Char} {l : Lexeme} (h : readInstruction text = .ok l) :
    l.source ++ l.rest = '<' :: '?' :: text := by
  unfold readInstruction at h
  split at h
  · cases h
  · split at h
    · rename_i heq
      cases h
      simp [lexeme, ← Text.append_splitAt? heq]
    · cases h

theorem append_readTag {text : List Char} {l : Lexeme} (h : readTag text = .ok l) :
    l.source ++ l.rest = '<' :: text := by
  unfold readTag at h
  split at h
  · rename_i heq
    cases h
    simp [lexeme, ← append_tagInside? heq]
  · cases h

theorem append_read {first : Char} {text : List Char} {l : Lexeme} (h : read first text = .ok l) :
    l.source ++ l.rest = first :: text := by
  unfold read at h
  split at h
  · rename_i hfirst
    subst hfirst
    unfold readMarkup at h
    split at h
    · exact append_readDeclared h
    · exact append_readInstruction h
    · exact append_readTag h
  · cases h
    simp [List.takeWhile_append_dropWhile]

theorem lexeme_source_pos {token : Token} {opening inside closing rest : List Char}
    (h : 0 < opening.length) : 0 < (lexeme token opening inside closing rest).source.length := by
  simp only [lexeme, List.length_append]
  omega

theorem readDeclared_source_pos {text : List Char} {l : Lexeme} (h : readDeclared text = .ok l) :
    0 < l.source.length := by
  unfold readDeclared at h
  split at h
  · split at h
    · cases h
      exact lexeme_source_pos (by decide)
    · cases h
  · split at h
    · cases h
      exact lexeme_source_pos (by decide)
    · cases h
  · split at h
    · split at h
      · cases h
      · split at h
        · cases h
        · simp only at h
          split at h
          · cases h
          · cases h
            exact lexeme_source_pos (by decide)
    · cases h
  · cases h

theorem readMarkup_source_pos {text : List Char} {l : Lexeme} (h : readMarkup text = .ok l) :
    0 < l.source.length := by
  unfold readMarkup at h
  split at h
  · exact readDeclared_source_pos h
  · unfold readInstruction at h
    split at h
    · cases h
    · split at h
      · cases h
        exact lexeme_source_pos (by decide)
      · cases h
  · unfold readTag at h
    split at h
    · cases h
      exact lexeme_source_pos (by decide)
    · cases h

theorem source_pos {first : Char} {text : List Char} {l : Lexeme} (h : read first text = .ok l) :
    0 < l.source.length := by
  unfold read at h
  split at h
  · exact readMarkup_source_pos h
  · cases h
    simp

theorem rest_length_lt {first : Char} {text : List Char} {l : Lexeme}
    (h : read first text = .ok l) : l.rest.length < text.length + 1 := by
  have h1 := congrArg List.length (append_read h)
  have h2 := source_pos h
  simp only [List.length_append, List.length_cons] at h1
  omega

end Token
end StreamSelect.Markup
