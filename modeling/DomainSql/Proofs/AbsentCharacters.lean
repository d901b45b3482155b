import DomainSql.Proofs.CompiledParts
import DomainSql.Proofs.Words

/-!
# Characters that stay out of a text

Into the text of a compiled statement come the words of rendering, the numerals of its bounds
and names. A name is a plain name of the request, or a template filled with such names, or the
id column. So a character that is not part of plain names can only come from rendering and from
the naming, whatever a request holds.

Placeholders and line feeds are such characters. The values of a request are not written into
the text, and what they hold does not matter.
-/
namespace DomainSql

open Sql

namespace Sql

/-- A text is without a character. -/
def Lacks (c : Char) (text : String) : Prop := c ∉ text.toList

/-- A character that is neither part of plain names nor of the places of templates. -/
structure Foreign (c : Char) : Prop where
  noName : continuesIdentifier c = false
  noBrace : '{' ≠ c ∧ '}' ≠ c

section
variable {c : Char}

/-- Digits may be part of a name, so a foreign character is none of them. -/
theorem Foreign.lacks_repr (foreign : Foreign c) (number : Nat) : Lacks c number.repr := by
  intro inside
  exact absurd (continues_of_mem_repr inside) (by simp [foreign.noName])

/-- A plain name is without every foreign character. -/
theorem Foreign.lacks_of_isIdentifier (foreign : Foreign c) {name : String}
    (plain : isIdentifier name = true) : Lacks c name := by
  intro inside
  exact absurd (continues_of_mem plain inside) (by simp [foreign.noName])

/-- A template without a foreign character that is filled with plain names stays without it. -/
theorem Foreign.lacks_fill (foreign : Foreign c) {template : String} {names : List String}
    (lacks : Lacks c template) (named : ∀ name ∈ names, isIdentifier name = true) :
    Lacks c (Naming.fill template names) := by
  have around : ∀ d ∈ Template.outside template.toList, d ≠ c := by
    intro d inside same
    exact lacks (same ▸ Template.mem_of_mem_outside inside)
  have filled : ∀ name ∈ names.map String.toList, ∀ d ∈ name, d ≠ c := by
    rw [List.forall_mem_map]
    intro name listed d inside same
    exact foreign.lacks_of_isIdentifier (named name listed) (same ▸ inside)
  intro inside
  rw [Naming.fill, String.toList_ofList] at inside
  exact Template.forall_mem_fill around filled (fun _ => foreign.noBrace) c inside rfl

/-- Fragments whose texts are without a character, which is not the placeholder, have a text
without it. -/
theorem lacks_sql {fragments : List Fragment} (noPlace : placeholder ≠ c)
    (worded : Worded (Lacks c) fragments) : Lacks c (prepare fragments).sql := by
  have each : Worded (fun words => ∀ d ∈ words.toList, d ≠ c) fragments := by
    intro words listed d inside same
    exact worded words listed (same ▸ inside)
  intro inside
  exact forall_mem_sql noPlace each c inside rfl

end

end Sql

/-- The templates of a naming and its id column are without a character. -/
structure Naming.Lacks (c : Char) (naming : Naming) : Prop where
  table : Sql.Lacks c naming.tableFormat
  joinTable : Sql.Lacks c naming.joinTableFormat
  joinId : Sql.Lacks c naming.joinIdFormat
  idColumn : Sql.Lacks c naming.idColumn

/-- A naming without a foreign character gives names without it. -/
theorem Naming.Lacks.gives {c : Char} {naming : Naming} (lacks : naming.Lacks c)
    (foreign : Foreign c) : naming.Gives (Sql.Lacks c) where
  plain _ isPlain := foreign.lacks_of_isIdentifier isPlain
  table _ isPlain := foreign.lacks_fill lacks.table (by simpa using isPlain)
  joinTable _ _ leftPlain rightPlain :=
    foreign.lacks_fill lacks.joinTable (by simp [leftPlain, rightPlain])
  joinId _ isPlain := foreign.lacks_fill lacks.joinId (by simpa using isPlain)
  idColumn := lacks.idColumn

/-- The text of every statement of a compiled request is without a foreign character, unless
rendering or the naming brings it in. -/
theorem lacks_of_compile {c : Char} {metadata : Metadata} {request : Request} {plan : Plan}
    (foreign : Foreign c) (noPlace : placeholder ≠ c)
    (fixed : ∀ words ∈ fixedWords, Lacks c words) (lacks : metadata.naming.Lacks c)
    (compiled : (compile metadata request).outcome = .ok plan) :
    ∀ prepared ∈ plan.prepared, Lacks c prepared.sql := by
  intro prepared listed
  obtain ⟨statement, inside, rfl⟩ := List.mem_map.mp listed
  have named := (compile_sound (lacks.gives foreign) compiled statement inside).1
  exact lacks_sql noPlace (worded_statement fixed foreign.lacks_repr named)

end DomainSql
