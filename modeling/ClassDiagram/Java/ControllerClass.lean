import ClassDiagram.Java.RepositoryInterface
import ClassDiagram.Java.TransferObject

/-!
# Controllers

A controller offers the operations of a service on the web.
-/

namespace ClassDiagram

def Backend.controllerClass (backend : Backend) (entity : Entity) : String :=
  let name := entity.typeName
  let transfer := transferType name
  let service := fieldName name ++ "Service"
  let keyType := backend.keyType entity.table.name
  let imports :=
    [backend.qualified "dto" transfer, backend.qualified "service" (name ++ "Service"),
      "org.springframework.http.HttpStatus", "org.springframework.web.bind.annotation.*",
      "java.util.List"]
      ++ backend.importsOf keyType
  let body :=
    ["", s!"private final {name}Service {service};"]
      ++ "" :: block s!"public {name}Controller({name}Service {service})"
        [s!"this.{service} = {service};"]
      ++ "" :: "@GetMapping" :: block s!"public List<{transfer}> findAll()"
        [s!"return {service}.findAll();"]
      ++ "" :: "@GetMapping(\"/\x7bid\x7d\")"
        :: block s!"public {transfer} findById(@PathVariable {keyType} id)"
          [s!"return {service}.findById(id);"]
      ++ "" :: "@PostMapping" :: "@ResponseStatus(HttpStatus.CREATED)"
        :: block s!"public {transfer} create(@RequestBody {transfer} dto)"
          [s!"return {service}.create(dto);"]
      ++ "" :: "@PutMapping(\"/\x7bid\x7d\")"
        :: block (s!"public {transfer} update(@PathVariable {keyType} id, "
            ++ s!"@RequestBody {transfer} dto)")
          [s!"return {service}.update(id, dto);"]
      ++ "" :: "@DeleteMapping(\"/\x7bid\x7d\")" :: "@ResponseStatus(HttpStatus.NO_CONTENT)"
        :: block s!"public void delete(@PathVariable {keyType} id)"
          [s!"{service}.delete(id);"]
  let mapping := "@RequestMapping(\"" ++ resourcePath entity.table.name ++ "\")"
  sourceFile (backend.project.package "controller") imports
    ("@RestController" :: mapping :: block s!"public class {name}Controller" body)

end ClassDiagram
