import SchemaGen.Grammar.Schema

namespace SchemaGen

/-- The tokens that count: everything but blank runs. -/
def significant (tokens : List Token) : List Token :=
  tokens.filter (·.kind ≠ .whitespace)

/-- The token is a text token with exactly this spelling. -/
def Token.IsWord (token : Token) (word : String) : Prop :=
  token.kind = .text ∧ token.value = word

instance (token : Token) (word : String) : Decidable (token.IsWord word) :=
  inferInstanceAs (Decidable (_ ∧ _))

namespace Grammar

variable {α : Type}

/-- `part*`: any number of parts, one behind the other. -/
inductive Repeated (part : List Token → α → Prop) : List Token → List α → Prop
  | none : Repeated part [] []
  | more {front back : List Token} {value : α} {values : List α}
      (hpart : part front value) (hmore : Repeated part back values) :
      Repeated part (front ++ back) (value :: values)

/-- `sign part`: a part behind a token of a kind, whose tree does not show that token. -/
inductive Behind (kind : TokenKind) (part : List Token → α → Prop) : List Token → α → Prop
  | mk {sign : Token} {tokens : List Token} {value : α}
      (hsign : sign.kind = kind) (hpart : part tokens value) :
      Behind kind part (sign :: tokens) value

/-- `identifier`: any text token. -/
inductive IsName : List Token → String → Prop
  | mk {name : Token} (hname : name.kind = .text) : IsName [name] name.value

/-- `'!'?`, and whether it is there. -/
inductive IsMark : List Token → Bool → Prop
  | absent : IsMark [] false
  | present {mark : Token} (hmark : mark.kind = .bang) : IsMark [mark] true

/-- `'[' identifier '!'? ']' '!'? | identifier '!'?` -/
inductive IsType : List Token → TypeRef → Prop
  | list {opening name closing : Token} {inner outer : List Token} {nonNullElements required : Bool}
      (hopening : opening.kind = .leftBracket) (hname : name.kind = .text)
      (hinner : IsMark inner nonNullElements) (hclosing : closing.kind = .rightBracket)
      (houter : IsMark outer required) :
      IsType (opening :: name :: (inner ++ closing :: outer))
        { loc := opening.loc, name := name.value, required, multiple := true, nonNullElements }
  | named {name : Token} {outer : List Token} {required : Bool}
      (hname : name.kind = .text) (houter : IsMark outer required) :
      IsType (name :: outer)
        { loc := name.loc, name := name.value, required, multiple := false,
          nonNullElements := false }

/-- `identifier ':' type` -/
inductive IsParam : List Token → Param → Prop
  | mk {name colon : Token} {tokens : List Token} {type : TypeRef}
      (hname : name.kind = .text) (hcolon : colon.kind = .colon) (htype : IsType tokens type) :
      IsParam (name :: colon :: tokens) { loc := name.loc, name := name.value, type }

/-- `param (',' param)*`, or nothing. -/
inductive IsParamRun : List Token → List Param → Prop
  | none : IsParamRun [] []
  | some {front back : List Token} {param : Param} {params : List Param}
      (hparam : IsParam front param) (hmore : Repeated (Behind .comma IsParam) back params) :
      IsParamRun (front ++ back) (param :: params)

/-- `'(' (param (',' param)*)? ')'` -/
inductive IsParams : List Token → List Param → Prop
  | mk {opening closing : Token} {tokens : List Token} {params : List Param}
      (hopening : opening.kind = .leftParen) (hrun : IsParamRun tokens params)
      (hclosing : closing.kind = .rightParen) :
      IsParams (opening :: (tokens ++ [closing])) params

/-- `params?`. Without parentheses there are no parameters, as with empty ones. -/
inductive IsParams? : List Token → List Param → Prop
  | absent : IsParams? [] []
  | present {tokens : List Token} {params : List Param} (hparams : IsParams tokens params) :
      IsParams? tokens params

/-- `'@' identifier` -/
inductive IsDirective : List Token → Directive → Prop
  | mk {sign name : Token} (hsign : sign.kind = .at) (hname : name.kind = .text) :
      IsDirective [sign, name] { loc := sign.loc, name := name.value }

/-- `identifier params? ':' type directive*` -/
inductive IsField : List Token → Field → Prop
  | mk {name colon : Token} {paramTokens typeTokens directiveTokens : List Token}
      {params : List Param} {type : TypeRef} {directives : List Directive}
      (hname : name.kind = .text) (hparams : IsParams? paramTokens params)
      (hcolon : colon.kind = .colon) (htype : IsType typeTokens type)
      (hdirectives : Repeated IsDirective directiveTokens directives) :
      IsField (name :: (paramTokens ++ colon :: (typeTokens ++ directiveTokens)))
        { loc := name.loc, name := name.value, type, params, directives }

/-- `'{' field* '}'` -/
inductive IsBlock : List Token → List Field → Prop
  | mk {opening closing : Token} {tokens : List Token} {fields : List Field}
      (hopening : opening.kind = .leftCurly) (hfields : Repeated IsField tokens fields)
      (hclosing : closing.kind = .rightCurly) :
      IsBlock (opening :: (tokens ++ [closing])) fields

/-- `typedef | input | schema | directivedef` -/
inductive IsDefinition : List Token → Definition → Prop
  | typeDef {word name : Token} {tokens : List Token} {fields : List Field}
      (hword : word.IsWord "type") (hname : name.kind = .text) (hblock : IsBlock tokens fields) :
      IsDefinition (word :: name :: tokens)
        (.typeDef { loc := word.loc, name := name.value, fields, input := false })
  | inputDef {word name : Token} {tokens : List Token} {fields : List Field}
      (hword : word.IsWord "input") (hname : name.kind = .text) (hblock : IsBlock tokens fields) :
      IsDefinition (word :: name :: tokens)
        (.typeDef { loc := word.loc, name := name.value, fields, input := true })
  | schema {word : Token} {tokens : List Token} {fields : List Field}
      (hword : word.IsWord "schema") (hblock : IsBlock tokens fields) :
      IsDefinition (word :: tokens) (.schema { loc := word.loc, fields })
  | directiveDef {word sign name on target : Token} {tokens : List Token} {targets : List String}
      (hword : word.IsWord "directive") (hsign : sign.kind = .at) (hname : name.kind = .text)
      (hon : on.IsWord "on") (htarget : target.kind = .text)
      (htargets : Repeated (Behind .comma IsName) tokens targets) :
      IsDefinition (word :: sign :: name :: on :: target :: tokens)
        (.directiveDef { loc := word.loc, name := name.value, targets := target.value :: targets })

/-- `definition* EOF`. The document stands where its first token stands, which is the end of the
file if there is no definition. -/
inductive IsDocument : List Token → Document → Prop
  | mk {tokens : List Token} {eof first : Token} {definitions : List Definition}
      (hdefinitions : Repeated IsDefinition tokens definitions) (heof : eof.kind = .eof)
      (hfirst : (tokens ++ [eof]).head? = some first) :
      IsDocument (tokens ++ [eof]) { loc := first.loc, definitions }

end Grammar

end SchemaGen
