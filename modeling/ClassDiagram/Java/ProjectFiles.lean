import ClassDiagram.Java.Layer
import ClassDiagram.Sql.Script

/-!
# Project files

What stands around the sources so that they can be built and run: the build file, the class that
starts the application, its settings and the schema script.
-/

namespace ClassDiagram

/-- The library that connects to a database, and the address of a local one. -/
structure DatabaseSettings where
  driverGroup : String
  driverArtifact : String
  addressStart : String
  deriving DecidableEq, Repr

def Dialect.databaseSettings : Dialect → DatabaseSettings
  | .postgresql => ⟨"org.postgresql", "postgresql", "jdbc:postgresql://localhost:5432/"⟩
  | .mysql => ⟨"com.mysql", "mysql-connector-j", "jdbc:mysql://localhost:3306/"⟩
  | .generic => ⟨"com.h2database", "h2", "jdbc:h2:mem:"⟩

/-- An element of the build file with further elements inside. -/
def xmlElement (tag : String) (body : List String) : List String :=
  s!"<{tag}>" :: body.map indent ++ [s!"</{tag}>"]

def xmlText (tag text : String) : String :=
  s!"<{tag}>" ++ text ++ s!"</{tag}>"

def dependency (group artifact : String) (scope : Option String) : List String :=
  xmlElement "dependency"
    ([xmlText "groupId" group, xmlText "artifactId" artifact]
      ++ scope.toList.map (xmlText "scope"))

def springGroup : String := "org.springframework.boot"

def JavaProject.buildFile (project : JavaProject) (dialect : Dialect) : String :=
  let source := dialect.databaseSettings
  let head :=
    ["<?xml version=\"1.0\" encoding=\"UTF-8\"?>",
      "<project xmlns=\"http://maven.apache.org/POM/4.0.0\"",
      "         xmlns:xsi=\"http://www.w3.org/2001/XMLSchema-instance\"",
      "         xsi:schemaLocation=\"http://maven.apache.org/POM/4.0.0 "
        ++ "https://maven.apache.org/xsd/maven-4.0.0.xsd\">"]
  let parent :=
    xmlElement "parent"
      [xmlText "groupId" springGroup, xmlText "artifactId" "spring-boot-starter-parent",
        xmlText "version" "3.3.4", "<relativePath/>"]
  let dependencies :=
    xmlElement "dependencies"
      (dependency springGroup "spring-boot-starter-web" none
        ++ dependency springGroup "spring-boot-starter-data-jpa" none
        ++ dependency source.driverGroup source.driverArtifact (some "runtime")
        ++ dependency springGroup "spring-boot-starter-test" (some "test"))
  let plugins :=
    xmlElement "build" (xmlElement "plugins" (xmlElement "plugin"
      [xmlText "groupId" springGroup, xmlText "artifactId" "spring-boot-maven-plugin"]))
  let body :=
    [xmlText "modelVersion" "4.0.0", ""]
      ++ parent
      ++ ["", xmlText "groupId" project.basePackage, xmlText "artifactId" project.name,
        xmlText "version" "0.0.1-SNAPSHOT", xmlText "name" project.name, ""]
      ++ xmlElement "properties" [xmlText "java.version" "17"]
      ++ "" :: dependencies ++ "" :: plugins
  unlines (head ++ body.map indent ++ ["</project>"])

def JavaProject.mainSource (project : JavaProject) : String :=
  let name := project.mainClass
  sourceFile project.basePackage
    ["org.springframework.boot.SpringApplication",
      "org.springframework.boot.autoconfigure.SpringBootApplication"]
    ("@SpringBootApplication" :: block s!"public class {name}"
      ("" :: block "public static void main(String[] args)"
        [s!"SpringApplication.run({name}.class, args);"]))

def JavaProject.settings (project : JavaProject) (dialect : Dialect) : String :=
  let database := String.ofList (project.name.toList.map fun c => if c = '-' then '_' else c)
  unlines
    ([s!"spring.application.name={project.name}",
      s!"spring.datasource.url={dialect.databaseSettings.addressStart}{database}"]
      ++ (if dialect = .generic then []
        else ["spring.datasource.username=", "spring.datasource.password="])
      ++ ["spring.jpa.hibernate.ddl-auto=none", "spring.jpa.open-in-view=false",
        "spring.sql.init.mode=always"])

/-- The files around the sources of a schema. -/
def Schema.projectFiles (schema : Schema) (project : JavaProject) (dialect : Dialect) :
    Except TypeFault Bundle := do
  let script ← schema.script dialect
  return Catalog.ofList
    [("pom.xml", project.buildFile dialect),
      (project.sourceFolder ++ "/" ++ project.mainClass ++ ".java",
        project.mainSource),
      ("src/main/resources/application.properties", project.settings dialect),
      ("src/main/resources/schema.sql", script)]

/-- Why a schema has no project. -/
inductive GenerationFault where
  | badSchema (faults : List ModelFault)
  | badType (fault : TypeFault)

/-- The sources for a schema together with the files around them. -/
def Schema.generateProject (schema : Schema) (project : JavaProject) (dialect : Dialect) :
    Except GenerationFault Bundle := do
  let sources ← (schema.generate project).mapError .badSchema
  let files ← (schema.projectFiles project dialect).mapError .badType
  return sources.extend files

end ClassDiagram
