import DashQuery.Console.Session
import DashQuery.Proofs.Json.Blanks
import DashQuery.Text.Name

/-!
# The facet command

A facet command is written as its word, the names of the columns with commas between them and
a query.  It is taken apart at the first blank behind the word, and only then at the commas.
Names may hold blanks, so that the cut can come among them: what stands behind it is no query
then, as a query starts with a bracket or a brace and no name holds one.

## Key results

- `Query.ofText?_trimLine`: a query is read the same without the blanks around it
- `Query.ofText?_eq_none`: a query starts with a bracket or a brace
- `Query.ofText?_textOfTable`: a query that gives its table is read as that
- `Command.parse_facetLine`: what a facet command is read as
-/

namespace DashQuery

/-! ## Queries in a line -/

namespace Query

open Json.Reader

/-- A query is read the same without the blanks around it. -/
theorem ofText?_trimLine {text : String} {q : Query} (h : ofText? text = some q) :
    ofText? (trimLine text) = some q := by
  obtain ⟨j, hread, hj⟩ := Option.bind_eq_some_iff.mp h
  exact Option.bind_eq_some_iff.mpr ⟨j, Json.read?_trimLine hread, hj⟩

/-- A query holds more than blanks. -/
theorem trimmed_of_ofText? {text : String} {q : Query} (h : ofText? text = some q) :
    Trimmed (trimBlanks text.toList) := by
  refine trimmed_trimBlanks fun hblanks => ?_
  obtain ⟨j, hread, -⟩ := Option.bind_eq_some_iff.mp h
  obtain ⟨r, hvalue, -⟩ := Json.read?_eq_some_iff.mp hread
  rw [bare_value_blanks _ _ hblanks] at hvalue
  cases hvalue

/-- A query starts with a bracket or a brace. -/
theorem ofText?_eq_none {text : String} {c : Char} (hhead : text.toList.head? = some c)
    (hblank : isBlank c = false) (hbracket : c ≠ '[') (hbrace : c ≠ '\x7b') :
    ofText? text = none := by
  have hspace : ¬isSpace c = true := by
    intro hspace
    rw [isBlank_of_isSpace hspace] at hblank
    cases hblank
  rw [ofText?, Option.bind_eq_none_iff]
  intro j hj
  rw [ofJson?, Json.fields?_of_read? hj hhead hspace hbracket hbrace]

/-- The text of a query that gives its table and nothing else. -/
def textOfTable (table : String) : String := "\x7b\"sourceTable\": \"" ++ table ++ "\"\x7d"

/-- The characters of the text that asks for a table. -/
theorem toList_textOfTable (table : String) : (textOfTable table).toList =
    '\x7b' :: '\x22' :: ("sourceTable".toList ++
      '\x22' :: ':' :: ' ' :: '\x22' :: (table.toList ++ '\x22' :: ['\x7d'])) := by
  have hfront : "\x7b\"sourceTable\": \"".toList =
      '\x7b' :: '\x22' :: ("sourceTable".toList ++ ['\x22', ':', ' ', '\x22']) := by decide
  have hback : "\"\x7d".toList = ['\x22', '\x7d'] := by decide
  unfold textOfTable
  rw [String.toList_append, String.toList_append, hfront, hback]
  simp only [List.append_assoc, List.cons_append, List.nil_append]

/-- Such a text is read as the query of the table, if the table's name needs no escape. -/
theorem ofText?_textOfTable {table : String} (h : table.toList.all isPlain = true) :
    ofText? (textOfTable table) = some ⟨table, [], [], [], none, [], [], none, none⟩ := by
  have hkey : "sourceTable".toList.all isPlain = true := by decide
  -- the member: its key, a space, its value
  have hmember : ∀ room t, bare (member? outline room ('\x22' :: ("sourceTable".toList ++
      '\x22' :: ':' :: ' ' :: '\x22' :: (table.toList ++ '\x22' :: t)))) =
        some (("sourceTable", .str table), t) := by
    intro room t
    have hwhole : outline.member "sourceTable" = .whole := rfl
    rw [bare_member, bare_key_plain hkey, Option.bind_some, String.ofList_toList, hwhole,
      bare_value_space (by decide), bare_value_plain h, String.ofList_toList]
    rfl
  -- the braces around it
  have hread : Json.readDocument? outline (textOfTable table) =
      some (.obj [("sourceTable", .str table)]) := by
    have henter : enter? outline Json.maxNesting = some 126 := rfl
    refine Json.read?_eq_some_iff.mpr ⟨[], ?_, rfl⟩
    rw [toList_textOfTable, bare_value, next_cons (by decide), if_neg (by decide), if_pos rfl,
      henter, Option.bind_some, bare_members, inside, next_cons (by decide), if_neg (by decide),
      bare_moreMembers, hmember, Option.bind_some, follow, next_cons (by decide),
      if_neg (by decide), if_pos rfl]
    rfl
  rw [ofText?, hread]
  rfl

end Query

namespace Command

/-- The line that asks for the facets of the columns called `names`. -/
def facetLine (names : List String) (query : String) : String :=
  ":facets " ++ ",".intercalate names ++ " " ++ query

/-- The names as they stand in the line. -/
def nameList (names : List String) : List Char := [','].intercalate (names.map String.toList)

/-- The command that a facet command turns out to be. -/
theorem parse_of_facetWord {line : String} {cs : List Char}
    (h : line.toList = facetWord ++ ' ' :: cs) : parse line = parseFacets (' ' :: cs) := by
  have hother : ∀ word : String, word.toList.take 2 ≠ [':', 'f'] → line ≠ word := by
    rintro word hword rfl
    exact hword (by rw [h]; rfl)
  have hprefix : facetWord.isPrefixOf (facetWord ++ ' ' :: cs) = true :=
    List.isPrefixOf_iff_prefix.mpr (List.prefix_append _ _)
  rw [parse, if_neg (by simp [hother ":quit" (by decide), hother ":q" (by decide)]),
    if_neg (hother ":tables" (by decide)), h, if_pos hprefix, List.drop_left]

/-! ## The names -/

section

variable {names : List String}

/-- A list of valid names holds nothing but their characters and commas. -/
theorem mem_nameList (hvalid : ∀ name ∈ names, Name.isValid name = true) {c : Char}
    (h : c ∈ nameList names) : c = ',' ∨ Name.isNameChar c = true := by
  rcases mem_intercalate h with hcomma | ⟨cs, hcs, hc⟩
  · exact .inl (List.mem_singleton.mp hcomma)
  · obtain ⟨name, hname, rfl⟩ := List.mem_map.mp hcs
    exact .inr ((Name.isValid_iff.mp (hvalid name hname)).2 c hc)

/-- The commas are no blanks. -/
theorem any_isBlank_nameList : (nameList names).any isBlank = true ↔
    (names.any fun name => name.toList.any isBlank) = true := by
  simp only [List.any_eq_true]
  constructor
  · -- a blank in the list is in one of the names
    rintro ⟨c, hc, hblank⟩
    rcases mem_intercalate hc with hcomma | ⟨cs, hcs, hc⟩
    · rw [List.mem_singleton.mp hcomma] at hblank
      exact absurd hblank (by decide)
    · obtain ⟨name, hname, rfl⟩ := List.mem_map.mp hcs
      exact ⟨name, hname, c, hc, hblank⟩
  · -- a name is part of the list
    rintro ⟨name, hname, c, hc, hblank⟩
    exact ⟨c, mem_intercalate_of_mem (List.mem_map_of_mem hname) hc, hblank⟩

/-- No blank stands around a list of names that have none around them. -/
theorem trimmed_nameList (hne : names ≠ []) (hvalid : ∀ name ∈ names, Name.isValid name = true)
    (htrimmed : ∀ name ∈ names, trimLine name = name) : Trimmed (nameList names) := by
  refine Trimmed.intercalate _ (by simpa using hne) fun cs hcs => ?_
  obtain ⟨name, hname, rfl⟩ := List.mem_map.mp hcs
  exact trimmed_of_trimLine_eq_self (Name.isValid_iff.mp (hvalid name hname)).1
    (htrimmed name hname)

/-- The names are read back from the list of them. -/
theorem targetsOf_nameList (hne : names ≠ [])
    (hvalid : ∀ name ∈ names, Name.isValid name = true)
    (htrimmed : ∀ name ∈ names, trimLine name = name) : targetsOf (nameList names) = names := by
  -- no valid name holds a comma
  have hsplit : (nameList names).splitOn ',' = names.map String.toList := by
    refine List.splitOn_intercalate _ ?_ (by simpa using hne)
    intro cs hcs hcomma
    obtain ⟨name, hname, rfl⟩ := List.mem_map.mp hcs
    exact absurd ((Name.isValid_iff.mp (hvalid name hname)).2 ',' hcomma) (by decide)
  -- trimming and leaving out what is empty change nothing
  have hnames : names.map trimLine = names := by
    rw [List.map_congr_left htrimmed, List.map_id']
  rw [targetsOf, hsplit, List.map_map]
  change (names.map trimLine).filter _ = names
  rw [hnames, List.filter_eq_self]
  intro name hname
  simpa using (Name.isValid_iff.mp (hvalid name hname)).1

/-! ## The command -/

/-- The characters of a command line: the word, the names and the query, with blanks between them.
-/
theorem toList_facetLine (names : List String) (query : String) :
    (facetLine names query).toList =
      facetWord ++ ' ' :: (nameList names ++ ' ' :: query.toList) := by
  have hword : ":facets ".toList = facetWord ++ [' '] := by decide
  have hcomma : ",".toList = [','] := by decide
  have hspace : " ".toList = [' '] := by decide
  simp only [facetLine, nameList, String.toList_append, String.toList_intercalate, hword, hcomma,
    hspace, List.append_assoc, List.cons_append, List.nil_append]

/-- Trimming the line takes away only the blanks behind the query. -/
theorem toList_trimLine_facetLine {query : String} {front core back : List Char}
    (hquery : query.toList = front ++ core ++ back) (hcore : Trimmed core) (hback : Blanks back)
    (names : List String) :
    (trimLine (facetLine names query)).toList =
      facetWord ++ ' ' :: (nameList names ++ ' ' :: (front ++ core)) := by
  have hword : Trimmed facetWord := ⟨⟨':', rfl, by decide⟩, ⟨'s', rfl, by decide⟩⟩
  -- the query's text, without the blanks behind it, ends the line
  have hline : (facetLine names query).toList =
      [] ++ (facetWord ++ (' ' :: nameList names ++ ' ' :: front) ++ core) ++ back := by
    simp only [toList_facetLine, hquery, List.nil_append, List.append_assoc, List.cons_append]
  rw [trimLine, String.toList_ofList, hline, trimBlanks_eq (by simp [Blanks])
    (hword.append _ hcore) hback]
  simp only [List.append_assoc, List.cons_append]

/-- Blanks in front of the names are skipped, and no more than these. -/
theorem dropWhile_nameList (hnames : Trimmed (nameList names)) (cs : List Char) :
    (' ' :: (nameList names ++ cs)).dropWhile isBlank = nameList names ++ cs := by
  obtain ⟨c, hc, hblank⟩ := hnames.head
  obtain ⟨rest, hrest⟩ := List.head?_eq_some_iff.mp hc
  rw [List.dropWhile_cons_of_pos (by decide), hrest, List.cons_append,
    List.dropWhile_cons_of_neg (by simp [hblank])]

/-- Where no name holds a blank, the names end where the query starts. -/
theorem parseFacets_of_solid (hnames : Trimmed (nameList names))
    (hsolid : ∀ c ∈ nameList names, isBlank c = false) {rest : List Char} {q : Query}
    (hquery : Query.ofText? (String.ofList (trimBlanks rest)) = some q) :
    parseFacets (' ' :: (nameList names ++ ' ' :: rest)) =
      facets q (targetsOf (nameList names)) := by
  have hinside : ∀ c ∈ nameList names, (!isBlank c) = true := by simpa using hsolid
  -- the names reach up to the blank
  have htake : (nameList names ++ ' ' :: rest).takeWhile (fun c => !isBlank c) =
      nameList names := by
    rw [List.takeWhile_append_of_pos hinside, List.takeWhile_cons_of_neg (by decide),
      List.append_nil]
  -- the query's text starts behind them
  have hdrop : (nameList names ++ ' ' :: rest).dropWhile (fun c => !isBlank c) = ' ' :: rest := by
    rw [List.dropWhile_append_of_pos hinside, List.dropWhile_cons_of_neg (by decide)]
  simp only [parseFacets, dropWhile_nameList hnames, htake, hdrop, hquery]

/-- Where a name holds a blank, what is read as the query starts among the names. -/
theorem parseFacets_of_blank (hvalid : ∀ name ∈ names, Name.isValid name = true)
    (hnames : Trimmed (nameList names)) (hblank : ∃ c ∈ nameList names, isBlank c = true)
    (rest : List Char) : parseFacets (' ' :: (nameList names ++ ' ' :: rest)) = invalidQuery := by
  obtain ⟨b, hfind⟩ := Option.isSome_iff_exists.mp (List.find?_isSome.mpr hblank)
  obtain ⟨hb, start, behind, hsplit, hstart⟩ := List.find?_eq_some_iff_append.mp hfind
  -- the query is looked for behind the first blank
  have hline : (nameList names ++ ' ' :: rest).dropWhile (fun c => !isBlank c) =
      b :: (behind ++ ' ' :: rest) := by
    rw [hsplit, List.append_assoc, List.cons_append, List.dropWhile_append_of_pos hstart,
      List.dropWhile_cons_of_neg (by simp [hb])]
  -- the last name goes on behind the first blank, as it does not end with one
  have hmore : ∃ c ∈ behind, isBlank c = false := by
    rw [hsplit] at hnames
    exact hnames.exists_behind hb
  obtain ⟨c, hc, hcblank, hhead⟩ := head?_trimBlanks_append hmore (' ' :: rest)
  have hmem : c ∈ nameList names := by
    rw [hsplit]
    exact List.mem_append_right _ (List.mem_cons_of_mem b hc)
  -- a character of a name begins neither an object nor a list of members
  have hne : ∀ d : Char, d ≠ ',' → Name.isNameChar d = false → c ≠ d := by
    rintro d hcomma hname rfl
    rcases mem_nameList hvalid hmem with rfl | hc
    · exact hcomma rfl
    · rw [hname] at hc
      cases hc
  -- so what stands there is no query
  have hnone : Query.ofText? (String.ofList (trimBlanks (behind ++ ' ' :: rest))) = none :=
    Query.ofText?_eq_none (by rwa [String.toList_ofList]) hcblank (hne _ (by decide) (by decide))
      (hne _ (by decide) (by decide))
  simp only [parseFacets, dropWhile_nameList hnames, hline, hnone]

/-- The line of a facet command is read as one for its query and its columns, unless a column's
name holds a blank: the names are taken to end at the first one, and what stands behind it is no
query. -/
theorem parse_facetLine (hne : names ≠ []) (hvalid : ∀ name ∈ names, Name.isValid name = true)
    (htrimmed : ∀ name ∈ names, trimLine name = name) {query : String} {q : Query}
    (hquery : Query.ofText? query = some q) :
    parse (trimLine (facetLine names query)) =
      if names.any fun name => name.toList.any isBlank then invalidQuery else facets q names := by
  have hnames := trimmed_nameList hne hvalid htrimmed
  have hcore := Query.trimmed_of_ofText? hquery
  obtain ⟨front, back, hfront, hback, htext⟩ := exists_eq_trimBlanks query.toList
  -- the line without the blanks around it, and then the query's text without those in front of it
  have hline : (trimLine (facetLine names query)).toList =
      facetWord ++ ' ' :: (nameList names ++ ' ' :: (front ++ trimBlanks query.toList)) :=
    toList_trimLine_facetLine htext hcore hback names
  have htrim : trimBlanks (front ++ trimBlanks query.toList) = trimBlanks query.toList := by
    rw [← List.append_nil (front ++ trimBlanks query.toList)]
    exact trimBlanks_eq hfront hcore (by simp [Blanks])
  have hread : Query.ofText? (String.ofList (trimBlanks query.toList)) = some q :=
    Query.ofText?_trimLine hquery
  rw [parse_of_facetWord hline]
  -- a blank in a name ends the names too early
  by_cases hblank : (names.any fun name => name.toList.any isBlank) = true
  · rw [if_pos hblank]
    rw [← any_isBlank_nameList, List.any_eq_true] at hblank
    exact parseFacets_of_blank hvalid hnames hblank _
  · rw [if_neg hblank]
    rw [← any_isBlank_nameList, Bool.not_eq_true, List.any_eq_false] at hblank
    have hsolid : ∀ c ∈ nameList names, isBlank c = false := by simpa using hblank
    rw [parseFacets_of_solid hnames hsolid (by rwa [htrim]),
      targetsOf_nameList hne hvalid htrimmed]

/-- A query over a table whose columns are called with blanks in their names. -/
def spacedSample : String := Query.textOfTable "Child Bounties"

/-- One column of that table can be asked for, and one cannot. -/
theorem spacedSample_parse :
    (∃ q, Query.ofText? spacedSample = some q ∧
      parse (trimLine (facetLine ["status"] spacedSample)) = facets q ["status"]) ∧
    parse (trimLine (facetLine ["USD latest"] spacedSample)) = invalidQuery := by
  have hquery : Query.ofText? spacedSample =
      some ⟨"Child Bounties", [], [], [], none, [], [], none, none⟩ :=
    Query.ofText?_textOfTable (by decide)
  refine ⟨⟨_, hquery, ?_⟩, ?_⟩
  · -- no blank in the name
    exact (parse_facetLine (List.cons_ne_nil _ _) (by decide) (by decide) hquery).trans
      (if_neg (by decide))
  · -- a blank in the name
    exact (parse_facetLine (List.cons_ne_nil _ _) (by decide) (by decide) hquery).trans
      (if_pos (by decide))

end

end Command

end DashQuery
