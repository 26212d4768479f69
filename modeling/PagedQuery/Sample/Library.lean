import PagedQuery.Table.Basic
import PagedQuery.Value.Attribute

/-!
# A sample library

Books with their authors, categories, publishers and reviews, as entities and as the rows of a
database.
-/

namespace PagedQuery.Sample

open PagedQuery.Number PagedQuery.Text PagedQuery.Time

/-- The genres of books. -/
def genre : Enumeration :=
  .ofMembers "Genre" .plain
    [("FICTION", .text "fiction"), ("SCIENCE", .text "science"), ("HISTORY", .text "history"),
     ("POETRY", .text "poetry")]

private def str : FieldType := .scalar .text
private def int : FieldType := .scalar .int

/-- A class of records whose last fields need not be given. -/
def record (name : String) (required optional : List (String × FieldType)) : EntityType :=
  ⟨name, required ++ optional, [], .record, optional.map (·.1)⟩

/-- The entity types of the library. -/
def schema : Schema where
  enumerations := [genre]
  types := [
    record "Publisher" [("id", int), ("name", str)] [("country", .optional str)],
    record "Category" [("id", int), ("name", str)]
      [("publisher", .optional (.entity "Publisher")),
       ("books", .generic true .list [.entity "Book"])],
    record "Author" [("id", int), ("first_name", str), ("last_name", str)]
      [("birth_date", .optional (.scalar .date)), ("country", .optional str)],
    record "Review" [("id", int), ("rating", int), ("comment", str)] [],
    record "Book"
      [("id", int), ("title", str), ("isbn", str), ("page_count", int),
       ("publication_date", .scalar .dateTime), ("language", str),
       ("is_available", .scalar .bool), ("price", .scalar .decimal),
       ("genre", .enumeration "Genre")]
      [("loan_period", .scalar .span), ("subtitle", .optional str),
       ("author", .optional (.entity "Author")), ("category", .optional (.entity "Category")),
       ("reviews", .generic true .list [.entity "Review"])]]

def entity (type : String) (identity : Nat) (fields : List (String × Value)) : Value :=
  let fields := ("id", .int (identity % 100000)) :: fields
  .entity type { record := some (fields.map (·.1)) } identity fields

def publisher (number : Nat) (name country : String) : Value :=
  entity "Publisher" (100000 + number) [("name", .text name), ("country", .text country)]

def category (number : Nat) (name : String) (publisher : Value) : Value :=
  entity "Category" (200000 + number) [("name", .text name), ("publisher", publisher)]

def author (number : Nat) (first last : String) (born : Date) (country : String) : Value :=
  entity "Author" (300000 + number)
    [("first_name", .text first), ("last_name", .text last), ("birth_date", .date born),
     ("country", .text country)]

def categories : List Value :=
  [category 1 "Novels" (publisher 1 "Penguin" "UK"),
   category 2 "Essays" (publisher 2 "Gallimard" "France"),
   category 3 "Uncatalogued" .null]

def authors : List Value :=
  [author 1 "Ursula" "Le Guin" ⟨1929, 10, 21⟩ "USA",
   author 2 "Italo" "Calvino" ⟨1923, 10, 15⟩ "Italy"]

def languages : List String := ["English", "French", "German", "english (US)"]

/-- The reviews of the `i`-th book. -/
def reviews (i : Nat) : List Value :=
  (List.range (i % 3)).map fun r =>
    entity "Review" (400000 + i * 10 + r)
      [("rating", .int (1 + (i + r) % 5 : Nat)), ("comment", .text ("review " ++ toString r))]

/-- The `i`-th book. -/
def book (i : Nat) : Value :=
  entity "Book" (i + 1)
    [("title", .text ("Book " ++ padded 2 i)),
     ("isbn", .text ("978-" ++ padded 4 i)),
     ("page_count", .int (100 + i * 37 % 700 : Nat)),
     ("publication_date", .dateTime ⟨⟨2000 + i % 20, 1 + i % 12, 1 + i % 28⟩, ⟨12, 0, 0, 0, none⟩⟩),
     ("language", .text (languages.getD (i % 4) "")),
     ("is_available", .bool (i % 3 != 0)),
     ("price", .decimal (.finite false (999 + 100 * i) (-2))),
     ("genre", (genre.values[i % 4]?).getD .null),
     ("loan_period", .span (14 * microsPerDay)),
     ("subtitle", if i % 2 = 1 then .text ("Volume " ++ toString i) else .null),
     ("author", if i % 5 = 0 then .null else (authors[i % 2]?).getD .null),
     ("category", (categories[i % 3]?).getD .null),
     ("reviews", .list (reviews i))]

/-- The first books of the library. -/
def books (count : Nat) : List Value := (List.range count).map book

/-- An entity with another value for a field. -/
def setField (name : String) (value : Value) : Value → Value
  | .entity t kind i fields => .entity t kind i (putEntry name value fields)
  | v => v

/-- Books with a field of the one at a position changed. -/
def patch (books : List Value) (position : Nat) (name : String) (value : Value) : List Value :=
  books.modify position (setField name value)

def fieldOf (name : String) (v : Value) : Value := (v.attribute? name).getD .null

def identity : Value → Nat
  | .entity _ _ i _ => i
  | _ => 0

/-- Entities without the missing ones, each once. -/
def distinct (vs : List Value) : List Value :=
  vs.foldl (fun seen v =>
    if v.isNull || seen.any fun w => identity w == identity v then seen else seen ++ [v]) []

/-- What books hold where relations lead to a type of which books share entities, in order of
appearance. -/
def reached (type : String) (books : List Value) : List Value :=
  match type with
  | "Author" => books.map (fieldOf "author")
  | "Category" => books.map (fieldOf "category")
  | "Publisher" => books.map fun b => fieldOf "publisher" (fieldOf "category" b)
  | _ => []

/-- The entities of a type that books lead to, in order of appearance. -/
def entitiesOf (type : String) (books : List Value) : List Value :=
  match type with
  | "Author" | "Category" | "Publisher" => distinct (reached type books)
  | "Review" =>
    books.flatMap fun b =>
      match fieldOf "reviews" b with
      | .list rs => rs
      | _ => []
  | _ => books

/-- What the columns of a table hold. -/
structure TableForm where
  type : String
  plural : String
  /-- Columns that are fields of the entity. -/
  columns : List (String × FieldType)
  /-- Columns that hold the key of another entity: column, field, type. -/
  references : List (String × String × String) := []
  /-- Collections: name, type of their entities, the column that refers back. -/
  collections : List (String × String × String) := []

/-- The tables of the library. -/
def forms : List TableForm :=
  [{ type := "Publisher", plural := "publishers",
     columns := [("id", int), ("name", str), ("country", str)] },
   { type := "Category", plural := "categories",
     columns := [("id", int), ("name", str)]
     references := [("publisher_id", "publisher", "Publisher")]
     collections := [("books", "Book", "category_id")] },
   { type := "Author", plural := "authors",
     columns := [("id", int), ("first_name", str), ("last_name", str),
       ("birth_date", .scalar .date), ("country", str)]
     collections := [("books", "Book", "author_id")] },
   { type := "Review", plural := "reviews",
     columns := [("id", int), ("rating", int), ("comment", str)] },
   { type := "Book", plural := "books",
     columns := [("id", int), ("title", str), ("isbn", str), ("page_count", int),
       ("publication_date", .scalar .dateTime), ("language", str), ("is_available", .scalar .bool),
       ("price", .scalar .float), ("genre", .enumeration "Genre"), ("subtitle", str)]
     references := [("author_id", "author", "Author"), ("category_id", "category", "Category")]
     collections := [("reviews", "Review", "book_id")] }]

def cellOf (v : Value) : Cell :=
  match Cell.ofValue v with
  | .ok c => c
  | .error _ => .null

/-- The row of an entity with further cells. -/
def rowOf (form : TableForm) (v : Value) (more : List (String × Cell)) : Row :=
  let key := match fieldOf "id" v with
    | .int n => n
    | _ => 0
  ⟨key,
    form.columns.map (fun (n, _) => (n, cellOf (fieldOf n v))) ++
      form.references.map (fun (column, field, _) =>
        (column, cellOf (fieldOf "id" (fieldOf field v)))) ++ more⟩

/-- The entities of a table, each with the cells of its row that it does not hold itself: reviews
refer to their book. -/
def entriesOf (form : TableForm) (books : List Value) : List (Value × List (String × Cell)) :=
  if form.type = "Review" then
    books.flatMap fun b =>
      (entitiesOf "Review" [b]).map fun r => (r, [("book_id", cellOf (fieldOf "id" b))])
  else (entitiesOf form.type books).map fun v => (v, [])

/-- The rows of a table. -/
def rowsOf (form : TableForm) (books : List Value) : List Row :=
  ((entriesOf form books).map fun (v, more) => rowOf form v more).mergeSort fun r r' =>
    r.key ≤ r'.key

/-- The columns of a table in order: the reference of a review stands after its key. -/
def columnsOf (form : TableForm) : List Column :=
  let plain := form.columns.map fun (n, t) => Column.mk n t
  let references := form.references.map fun (n, _, _) => Column.mk n int
  if form.type = "Review" then plain.take 1 ++ [⟨"book_id", int⟩] ++ plain.drop 1
  else plain ++ references

/-- A table of the mapped entity types. -/
def mappedTable (books : List Value) (form : TableForm) : Table :=
  ⟨form.type, "id", columnsOf form,
    form.references.map (fun (column, field, type) => ⟨field, type, column, false⟩) ++
      form.collections.map (fun (name, type, column) => ⟨name, type, column, true⟩),
    rowsOf form books⟩

/-- A table without rows, with columns of the rarer types. -/
def gadgets : Table where
  name := "Gadget"
  identifier := "code"
  columns :=
    [⟨"code", str⟩, ⟨"part_no", int⟩, ⟨"amount", .scalar .decimal⟩, ⟨"opens_at", .scalar .time⟩,
     ⟨"warranty", .scalar .span⟩, ⟨"token", .scalar .uuid⟩, ⟨"raw_data", .scalar .bytes⟩,
     ⟨"mystery", .object⟩, ⟨"opaque", .any⟩]
  relations := []
  rows := []

/-- The books in a database of mapped entity types. -/
def mappedDatabase (books : List Value) : Database :=
  .ofTables [genre] (forms.map (mappedTable books) ++ [gadgets])

/-- The name of the table of an entity type. -/
def pluralOf (type : String) : String :=
  ((forms.find? (·.type == type)).map (·.plural)).getD type

/-- A table as it is found in a database, without knowledge of the entity types: relations have the
names of tables, and members of enumerations are texts. -/
def reflectedTable (books : List Value) (form : TableForm) : Table :=
  let referring := forms.flatMap fun other =>
    other.references.filterMap fun (column, _, type) =>
      if type = form.type then
        some (Relation.mk (other.plural ++ "_collection") other.plural column true)
      else none
  let reviews :=
    if form.type = "Book" then [Relation.mk "reviews_collection" "reviews" "book_id" true] else []
  let book := if form.type = "Review" then [Relation.mk "books" "books" "book_id" false] else []
  ⟨form.plural, "id",
    (columnsOf form).map fun c =>
      match c.type with
      | .enumeration _ => ⟨c.name, str⟩
      | _ => c,
    form.references.map (fun (column, _, type) =>
      Relation.mk (pluralOf type) (pluralOf type) column false) ++ book ++ referring ++ reviews,
    rowsOf form books⟩

/-- The books in a database whose tables are found by name. -/
def reflectedDatabase (books : List Value) : Database :=
  .ofTables [] (forms.map (reflectedTable books))

end PagedQuery.Sample
