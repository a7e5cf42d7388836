import ClassDiagram.Java.ProjectFiles
import ClassDiagram.Proofs.CommandLine.Writes
import ClassDiagram.Proofs.Java.Files
import ClassDiagram.Proofs.Java.JavaNames
import ClassDiagram.Proofs.Notation.Declarations
import ClassDiagram.Proofs.Sql.Increment

/-!
# Where the files of a project lie

The names of classes come from the names of tables, which keep no marks in camel case, so the files
of tables lie in the directories of their layers. The names of enumerations are taken as they are:
one with a slash in it puts its file elsewhere, and maybe outside of the project.
-/

namespace ClassDiagram

open Notation Text

/-! ## Names of files -/

theorem Notation.IsName.staysInside {name : String} (hname : IsName name) :
    name ∉ ["", ".", ".."] := by
  have hdot : '.' ∉ name.toList := hname.not_mem (by decide)
  have hnonempty : name.toList ≠ [] := hname.hasVisibleEnds.ne_nil
  intro hmem
  simp only [List.mem_cons, List.not_mem_nil, or_false] at hmem
  rcases hmem with rfl | rfl | rfl
  · exact hnonempty rfl
  · exact hdot (by decide)
  · exact hdot (by decide)

/-- The file of a class whose name has no slashes is one part of a path. -/
theorem staysInside_file {name : String} (hname : '/' ∉ name.toList) :
    StaysInside (name ++ ".java") := by
  have hfree : '/' ∉ (name ++ ".java").toList := by
    rw [String.toList_append, List.mem_append, not_or]
    exact ⟨hname, by decide⟩
  rw [StaysInside, pathParts_of_not_mem hfree, List.forall_mem_singleton]
  intro hmem
  have hlength : (name ++ ".java").toList.length ≤ 2 := by
    simp only [List.mem_cons, List.not_mem_nil, or_false] at hmem
    rcases hmem with heq | heq | heq <;> rw [heq] <;> decide
  rw [String.toList_append, List.length_append, show ".java".toList.length = 5 from rfl] at hlength
  omega

theorem slash_not_mem_upperCamelCase (text : String) : '/' ∉ (upperCamelCase text).toList := by
  intro hmem
  have hends : endsWord '/' = true := by decide
  cases hends.symm.trans (endsWord_of_mem_upperCamelCase '/' hmem)

/-- What a layer puts behind the name of an entity. -/
def Layer.suffix : Layer → String
  | .entity | .enums => ""
  | .transfer => "DTO"
  | .mapper => "Mapper"
  | .repository => "Repository"
  | .service => "Service"
  | .controller => "Controller"

theorem Layer.className_eq (layer : Layer) (name : String) :
    layer.className name = name ++ layer.suffix := by
  cases layer <;>
    simp only [className, suffix, transferType, mapperType, repositoryType, String.append_empty]

theorem Layer.isAlphanum_of_mem_suffix (layer : Layer) :
    ∀ c ∈ layer.suffix.toList, c.isAlphanum = true := by
  rw [← List.all_eq_true]
  cases layer <;> decide

theorem Layer.slash_not_mem_className (layer : Layer) {name : String} (hname : '/' ∉ name.toList) :
    '/' ∉ (layer.className name).toList := by
  rw [className_eq, String.toList_append, List.mem_append, not_or]
  refine ⟨hname, fun hmem => ?_⟩
  cases layer.isAlphanum_of_mem_suffix '/' hmem

/-- The class of a table has a Java name if the name of the table opens with a letter and none of
its characters becomes several ones in another case. -/
theorem Layer.isJavaName_className (layer : Layer) {table : String}
    (hsingle : ∀ c ∈ table.toList, HasSingleCases c) (hopens : OpensWithLetter table) :
    isJavaName (layer.className (typeName table)).toList = true := by
  obtain ⟨first, rest, hname, hletter, hlower, hrest⟩ :=
    upperCamelCase_eq_cons (fun c hc => (hsingle c hc).keepsLetters) hopens
  have hclass : (layer.className (typeName table)).toList =
      first :: (rest ++ layer.suffix.toList) := by
    rw [className_eq, String.toList_append, typeName, hname, List.cons_append]
  refine isJavaName_of_eq_cons hclass hletter ?_ ?_
  · exact not_mem_javaReservedWords (hclass ▸ List.mem_cons_self) hlower
  rw [List.forall_mem_append]
  refine ⟨hrest, fun c hc => ?_⟩
  exact isAlphanumeric_of_isAlphanum (layer.isAlphanum_of_mem_suffix c hc)

/-! ## Directories of a project -/

namespace JavaProject

variable {basePackage name : String} {project : JavaProject}

theorem isName_of_mem_package (hpackage : isPackage project.basePackage.toList = true)
    {part : List Char} (hpart : part ∈ splitEvery '.' project.basePackage.toList) :
    IsName (String.ofList part) := by
  have hjava := List.all_eq_true.1 hpackage part hpart
  rw [isJavaName, Bool.and_eq_true] at hjava
  rw [IsName, String.toList_ofList]
  exact hjava.1

theorem isPackage_of_eq_ok (hproject : JavaProject.of basePackage name = .ok project) :
    isPackage project.basePackage.toList = true := by
  rw [JavaProject.of] at hproject
  split_ifs at hproject with hpackage
  cases hproject
  rw [String.toList_ofList]
  simpa using hpackage

/-- The directories of a package are its parts. -/
theorem pathParts_sourceFolder (hpackage : isPackage project.basePackage.toList = true) :
    pathParts project.sourceFolder =
      ["src", "main", "java"] ++ (splitEvery '.' project.basePackage.toList).map String.ofList := by
  have hfree : '/' ∉ project.basePackage.toList := by
    intro hmem
    obtain ⟨part, hpart, hslash⟩ := exists_mem_splitEvery hmem (by decide : '/' ≠ '.')
    have hname : '/' ∉ (String.ofList part).toList :=
      (isName_of_mem_package hpackage hpart).not_mem (by decide)
    rw [String.toList_ofList] at hname
    exact hname hslash
  let package := String.ofList (project.basePackage.toList.map fun c => if c = '.' then '/' else c)
  have hpackageParts : pathParts package =
      (splitEvery '.' project.basePackage.toList).map String.ofList := by
    rw [pathParts, String.toList_ofList, splitEvery_map_mark hfree]
  have hjava : pathParts "src/main/java" = ["src", "main", "java"] := by decide
  have hfolder : project.sourceFolder = "src/main/java" ++ "/" ++ package := by
    apply String.toList_inj.1
    simp [sourceFolder, package]
  rw [hfolder, pathParts_append_slash, hpackageParts, hjava]

theorem staysInside_sourceFolder (hpackage : isPackage project.basePackage.toList = true) :
    StaysInside project.sourceFolder := by
  rw [StaysInside, pathParts_sourceFolder hpackage, List.forall_mem_append]
  constructor
  · decide
  · rw [List.forall_mem_map]
    intro part hpart
    exact (isName_of_mem_package hpackage hpart).staysInside

/-- The file of the class that starts the application. -/
def mainFile (project : JavaProject) : String :=
  project.sourceFolder ++ "/" ++ project.mainClass ++ ".java"

theorem staysInside_mainFile (hpackage : isPackage project.basePackage.toList = true) :
    StaysInside project.mainFile := by
  have hclass : '/' ∉ project.mainClass.toList := by
    rw [mainClass, String.toList_append, List.mem_append, not_or]
    exact ⟨slash_not_mem_upperCamelCase _, by decide⟩
  rw [mainFile, String.append_assoc, staysInside_append_slash_iff]
  exact ⟨staysInside_sourceFolder hpackage, staysInside_file hclass⟩

theorem staysInside_classPath (hpackage : isPackage project.basePackage.toList = true)
    (layer : Layer) {name : String} (hname : '/' ∉ name.toList) :
    StaysInside (project.classPath layer name) := by
  have hlayer : StaysInside layer.name := by
    cases layer <;> decide
  rw [classPath, sourceDirectory, String.append_assoc, staysInside_append_slash_iff,
    staysInside_append_slash_iff]
  exact ⟨⟨staysInside_sourceFolder hpackage, hlayer⟩,
    staysInside_file (layer.slash_not_mem_className hname)⟩

end JavaProject

/-! ## Files of a project -/

theorem mem_paths_extend {bundle other : Bundle} {path : String} :
    path ∈ (bundle.extend other).paths ↔ path ∈ bundle.paths ∨ path ∈ other.paths := by
  simp only [Backend.mem_paths_iff, Bundle.extend, Catalog.mem_names_foldl_insert Prod.fst Prod.snd]
  rfl

theorem Schema.paths_projectFiles {schema : Schema} {project : JavaProject} {dialect : Dialect}
    {files : Bundle} (hfiles : schema.projectFiles project dialect = .ok files) {path : String} :
    path ∈ files.paths ↔ path ∈ ["pom.xml", project.mainFile,
      "src/main/resources/application.properties", "src/main/resources/schema.sql"] := by
  obtain ⟨script, -, heq⟩ := bind_eq_ok hfiles
  cases heq
  rw [Backend.mem_paths_iff, Catalog.mem_names_ofList]
  rfl

namespace Diagram

/-- Where the project of a diagram has files. -/
inductive HasFile (diagram : Diagram) (schema : Schema) (project : JavaProject) : String → Prop
  | buildFile : HasFile diagram schema project "pom.xml"
  | settings : HasFile diagram schema project "src/main/resources/application.properties"
  | script : HasFile diagram schema project "src/main/resources/schema.sql"
  | mainClass : HasFile diagram schema project project.mainFile
  | tableClass {table : Table} {layer : Layer} (hmem : table ∈ schema.tables.values)
      (hlayer : layer ∈ table.layers) :
      HasFile diagram schema project (project.classPath layer (typeName table.name))
  | enumClass {element : Element} (hmem : element ∈ diagram.enumElements) :
      HasFile diagram schema project (project.classPath .enums (trimmed element.className))

variable {diagram : Diagram} {schema : Schema} {basePackage name : String} {project : JavaProject}

theorem mem_files_iff (haccepted : diagram.schema = .ok schema) {path : String} :
    path ∈ schema.files project ∨ path ∈ ["pom.xml", project.mainFile,
        "src/main/resources/application.properties", "src/main/resources/schema.sql"] ↔
      diagram.HasFile schema project path := by
  simp only [Schema.files, List.mem_append, List.mem_flatMap, List.mem_map, Table.files,
    EnumType.file, List.mem_cons, List.not_mem_nil, or_false]
  constructor
  · rintro ((⟨table, hmem, layer, hlayer, rfl⟩ | ⟨enumType, hmem, rfl⟩) | rfl | rfl | rfl | rfl)
    · exact .tableClass hmem hlayer
    · obtain ⟨element, helement, hname⟩ := (exists_enumType_iff haccepted).1 ⟨enumType, hmem, rfl⟩
      exact hname ▸ .enumClass helement
    · exact .buildFile
    · exact .mainClass
    · exact .settings
    · exact .script
  · intro hfile
    cases hfile with
    | buildFile => exact .inr (.inl rfl)
    | mainClass => exact .inr (.inr (.inl rfl))
    | settings => exact .inr (.inr (.inr (.inl rfl)))
    | script => exact .inr (.inr (.inr (.inr rfl)))
    | tableClass hmem hlayer => exact .inl (.inl ⟨_, hmem, _, hlayer, rfl⟩)
    | enumClass hmem =>
      obtain ⟨enumType, henum, hname⟩ := (exists_enumType_iff haccepted).2 ⟨_, hmem, rfl⟩
      exact .inl (.inr ⟨enumType, henum, by rw [hname]⟩)

theorem exists_generateProject (haccepted : diagram.schema = .ok schema) (project : JavaProject)
    (dialect : Dialect) : ∃ bundle, schema.generateProject project dialect = .ok bundle ∧
      ∀ path, path ∈ bundle.paths ↔ diagram.HasFile schema project path := by
  have hrules := (sound_of_schema haccepted).rules
  have hscript := (hasSqlTypes_of_schema haccepted).scriptFor_eq schema.tables.names dialect
  have hfiles : ∃ files, schema.projectFiles project dialect = .ok files := by
    rw [Schema.projectFiles, Schema.script, hscript]
    exact ⟨_, rfl⟩
  obtain ⟨files, hfiles⟩ := hfiles
  refine ⟨(Backend.full schema project).bundle.extend files, ?_, fun path => ?_⟩
  · rw [Schema.generateProject, Schema.generate_eq_ok hrules, hfiles]
    rfl
  · rw [mem_paths_extend, Schema.paths_projectFiles hfiles,
      Backend.mem_paths_full_iff hrules.storedByName (enumsStoredByName_of_schema haccepted),
      mem_files_iff haccepted]

/-- A file that does not stay inside is that of an enumeration with a slash in its name. -/
theorem HasFile.staysInside_or (hpackage : isPackage project.basePackage.toList = true)
    {path : String} (hfile : diagram.HasFile schema project path) :
    StaysInside path ∨ ∃ element ∈ diagram.enumElements, '/' ∈ (trimmed element.className).toList ∧
      path = project.classPath .enums (trimmed element.className) := by
  cases hfile with
  | buildFile | settings | script => exact .inl (by decide)
  | mainClass => exact .inl (JavaProject.staysInside_mainFile hpackage)
  | tableClass =>
    have hname := slash_not_mem_upperCamelCase
    exact .inl (JavaProject.staysInside_classPath hpackage _ (hname _))
  | @enumClass element hmem =>
    by_cases hslash : '/' ∈ (trimmed element.className).toList
    · exact .inr ⟨element, hmem, hslash, rfl⟩
    · exact .inl (JavaProject.staysInside_classPath hpackage .enums hslash)

/-- An enumeration whose name leads up from the directory of enumerations. -/
def strayingEnum : Element where
  id := "1"
  className := "../../../../../../../../Evil"
  attributes := ["A"]
  methods := []
  kind := .enumKind

def straying : Diagram where
  elements := [strayingEnum]
  relationships := []

def strayingPath : String :=
  "src/main/java/com/example/demo/enums/../../../../../../../../Evil.java"

/-- The file is written beside the output directory. -/
theorem exists_strayingFile (text : String) :
    ∃ later, Run.onTree (Run.writeFile FileTree.disk "work/out" (strayingPath, text)) []
        FileTree.empty = ((.ok (), []), later) ∧
      later.nodes.find? "work/Evil.java" = some (.file text) := by
  let path := Run.pathBelow "work/out" strayingPath
  let parent := (splitLast '/' path.toList).elim [] Prod.fst
  let made := FileTree.empty.makeDirectories (String.ofList parent)
  let middle := made.toOption.getD FileTree.empty
  obtain ⟨hsplit, hmade, hparts, hparent, hname, hplace, hfree⟩ :
      splitLast '/' path.toList = some (parent, "Evil.java".toList) ∧ made.toOption.isSome ∧
        FileTree.partsFromHere path = .ok (pathParts path) ∧
        middle.walk [] ((FileTree.dropSlashes (pathParts path)).dropLast ++ ["."]) = .ok ["work"] ∧
        FileTree.namesDirectory (pathParts path) = false ∧
        FileTree.step ["work"] ((pathParts path).getLastD "") = .ok ["work", "Evil.java"] ∧
        middle.node? ["work", "Evil.java"] = none := by
    decide +kernel
  have hmiddle : FileTree.empty.makeDirectories (String.ofList parent) = .ok middle := by
    change made = .ok (made.toOption.getD FileTree.empty)
    revert hmade
    cases made with
    | error => exact fun hmade => absurd hmade Bool.false_ne_true
    | ok => exact fun _ => rfl
  have hjoined : joinParts ["work", "Evil.java"] = "work/Evil.java" := by
    decide +kernel
  have hwrite := FileTree.write_of_walk text hparts hparent hname hplace hfree
  clear_value middle parent
  refine ⟨middle.put ["work", "Evil.java"] (.file text),
    Run.onTree_writeFile "work/out" (strayingPath, text) hsplit hmiddle hwrite [], ?_⟩
  rw [← hjoined]
  exact Catalog.find?_insert_self _ _ _

/-- Names below `work/out` do not begin as that of the file does. -/
theorem not_isBelow_strayingFile : ¬ FileTree.IsBelow "work/out" "work/Evil.java" := by
  rintro ⟨place, inside, hplace, hnonempty, -, hname⟩
  obtain rfl : ["work", "out"] = place := by
    have hout : (pathParts "work/out").foldlM FileTree.step [] = .ok ["work", "out"] := by
      decide +kernel
    exact Except.ok.inj (hout.symm.trans hplace)
  obtain ⟨part, rest, rfl⟩ := List.exists_cons_of_ne_nil hnonempty
  have hchars := congrArg String.toList hname
  simp [joinParts] at hchars

theorem not_keepsBelow_strayingPath (text : String) :
    ¬ Run.KeepsBelow "work/out" (Run.writeFile FileTree.disk "work/out" (strayingPath, text)) := by
  intro hkeeps
  obtain ⟨later, hrun, hwritten⟩ := exists_strayingFile text
  have hchanges := hkeeps [] FileTree.empty
  rw [hrun] at hchanges
  have hnew : later.nodes.find? "work/Evil.java" ≠
      FileTree.empty.nodes.find? "work/Evil.java" := by
    rw [hwritten]
    exact nofun
  rcases hchanges _ hnew with hbelow | ⟨-, hdirectory, -⟩
  · exact not_isBelow_strayingFile hbelow
  · cases hwritten.symm.trans hdirectory

end Diagram

end ClassDiagram
