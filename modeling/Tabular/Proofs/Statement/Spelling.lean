import Tabular.Number.Integer
import Tabular.Statement

namespace Tabular

/-- Items in order, with a token between each and the next; the mark that an item stands under is
the one that the token in front of it shows. -/
inductive Linked (S : β → α → List Token → Prop) (link : β → Token) :
    β → List α → List Token → Prop where
  | one {b : β} {a : α} {ts : List Token} (h : S b a ts) : Linked S link b [a] ts
  | more {b b' : β} {a : α} {as : List α} {ts rest : List Token} (h : S b a ts)
    (hrest : Linked S link b' as rest) : Linked S link b (a :: as) (ts ++ link b' :: rest)

/-- One or more items with commas between them. -/
abbrev Commas (S : α → List Token → Prop) : List α → List Token → Prop :=
  Linked (fun _ : Unit => S) (fun _ => .symbol .comma) ()

/-- A list with commas, between parentheses. -/
def Enclosed (S : α → List Token → Prop) (as : List α) (ts : List Token) : Prop :=
  ∃ inner, Commas S as inner ∧ ts = .symbol .leftParen :: inner ++ [.symbol .rightParen]

def Named (name : String) (ts : List Token) : Prop :=
  ts = [.ident name]

/-- Numbers and words stand for themselves, and the truth values for their words. -/
inductive Literal.Spelling : Literal → List Token → Prop where
  | number (digits : String) : Spelling (.bare digits) [.number digits]
  | word (word : String) : Spelling (.bare word) [.ident word]
  | truth : Spelling (.bare "true") [.keyword .true]
  | falsehood : Spelling (.bare "false") [.keyword .false]
  | quoted (content : String) : Spelling (.quoted content) [.text content]
  | null : Spelling .null [.keyword .null]

def Comparator.token : Comparator → Token
  | .eq => .symbol .equal
  | .ne => .symbol .notEqual
  | .gt => .symbol .greater
  | .ge => .symbol .greaterEqual
  | .lt => .symbol .lower
  | .le => .symbol .lowerEqual

/-- A width is a number of 32 bits between parentheses. -/
inductive ColumnSpec.Spelling : ColumnSpec → List Token → Prop where
  | plain (name typeWord : String) :
    Spelling ⟨name, typeWord, none⟩ [.ident name, .ident typeWord]
  | wide {name typeWord digits : String} {width : Nat}
    (h : readNatural widthLimit digits.toList = some width) :
    Spelling ⟨name, typeWord, some width⟩
      [.ident name, .ident typeWord, .symbol .leftParen, .number digits, .symbol .rightParen]

/-- The columns of a key, behind the last column of the table; a table need not have one. -/
inductive KeyClause : List String → List Token → Prop where
  | none : KeyClause [] []
  | some {key : List String} {ks : List Token} (h : Enclosed Named key ks) :
    KeyClause key ([.symbol .comma, .keyword .primary, .keyword .key] ++ ks)

inductive Targets : Option (List String) → List Token → Prop where
  | all : Targets none []
  | some {columns : List String} {cs : List Token} (h : Enclosed Named columns cs) :
    Targets (some columns) cs

/-- One comparison; what stands in front of it is not part of it. -/
inductive Predicate.Spelling : Predicate → List Token → Prop where
  | plain {alternative : Bool} {column : String} {comparator : Comparator} {literal : Literal}
    {ls : List Token} (h : literal.Spelling ls) :
    Spelling ⟨alternative, false, column, comparator, literal⟩
      ([.ident column, comparator.token] ++ ls)
  | negated {alternative : Bool} {column : String} {comparator : Comparator} {literal : Literal}
    {ls : List Token} (h : literal.Spelling ls) :
    Spelling ⟨alternative, true, column, comparator, literal⟩
      ([.keyword .not, .ident column, comparator.token] ++ ls)

/-- An alternative follows OR; the first comparison is none, and no more is one behind AND. -/
inductive Filter.Spelling : Filter → List Token → Prop where
  | all : Spelling none []
  | some {predicates : List Predicate} {ps : List Token}
    (h : Linked (fun alternative p ts => p.alternative = alternative ∧ p.Spelling ts)
      (fun alternative => .keyword (if alternative then .or else .and)) false predicates ps) :
    Spelling (some predicates) (.keyword .where :: ps)

/-- A bare JOIN is an inner one. -/
inductive JoinKind.Spelling : JoinKind → List Token → Prop where
  | bare : Spelling .inner [.keyword .join]
  | inner : Spelling .inner [.keyword .inner, .keyword .join]
  | left : Spelling .left [.keyword .left, .keyword .join]
  | right : Spelling .right [.keyword .right, .keyword .join]

def QualifiedColumn.tokens (q : QualifiedColumn) : List Token :=
  [.ident q.table, .symbol .dot, .ident q.column]

inductive JoinClause.Spelling : Option JoinClause → List Token → Prop where
  | none : Spelling none []
  | some {kind : JoinKind} {table : String} {first second : QualifiedColumn} {ks : List Token}
    (h : kind.Spelling ks) :
    Spelling (some ⟨kind, table, first, second⟩)
      (ks ++ [.ident table, .keyword .on] ++ first.tokens ++ .symbol .equal :: second.tokens)

inductive Projection.Spelling : Projection → List Token → Prop where
  | all : Spelling .all [.symbol .star]
  | names {columns : List String} {cs : List Token} (h : Commas Named columns cs) :
    Spelling (.names columns) cs

/-- A statement as its tokens spell it, without the semicolon that may end it. -/
inductive Statement.Spelling : Statement → List Token → Prop where
  | createTable {name : String} {columns : List ColumnSpec} {key : List String}
    {cs ks : List Token} (hcolumns : Commas ColumnSpec.Spelling columns cs)
    (hkey : KeyClause key ks) :
    Spelling (.change (.createTable name columns key))
      ([.keyword .create, .keyword .table, .ident name, .symbol .leftParen] ++ cs ++ ks ++
        [.symbol .rightParen])
  | insert {table : String} {columns : Option (List String)} {rows : List (List Literal)}
    {cs rs : List Token} (hcolumns : Targets columns cs)
    (hrows : Commas (Enclosed Literal.Spelling) rows rs) :
    Spelling (.change (.insert table columns rows))
      ([.keyword .insert, .keyword .into, .ident table] ++ cs ++ .keyword .values :: rs)
  | dropTable (name : String) :
    Spelling (.change (.dropTable name)) [.keyword .drop, .keyword .table, .ident name]
  | update {table column : String} {literal : Literal} {filter : Filter} {ls fs : List Token}
    (hliteral : literal.Spelling ls) (hfilter : filter.Spelling fs) :
    Spelling (.change (.update table column literal filter))
      ([.keyword .update, .ident table, .keyword .set, .ident column, .symbol .equal] ++ ls ++ fs)
  | delete {table : String} {filter : Filter} {fs : List Token} (hfilter : filter.Spelling fs) :
    Spelling (.change (.delete table filter))
      ([.keyword .delete, .keyword .from, .ident table] ++ fs)
  | query {projection : Projection} {table : String} {join : Option JoinClause} {filter : Filter}
    {ps js fs : List Token} (hprojection : projection.Spelling ps)
    (hjoin : JoinClause.Spelling join js) (hfilter : filter.Spelling fs) :
    Spelling (.query ⟨projection, table, join, filter⟩)
      (.keyword .select :: ps ++ [.keyword .from, .ident table] ++ js ++ fs)

end Tabular
