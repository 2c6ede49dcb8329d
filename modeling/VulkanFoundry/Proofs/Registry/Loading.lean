/-
# Loading a registry from characters

A text is read through the list of its characters. Loading from that list gives
the same registry, and is how a concrete document is evaluated: a string literal
is its list of characters by definition, while taking it apart by way of its bytes
takes time that grows with the square of its length.

Small documents are loaded here, to which later results are applied. In one, structs
of two platforms share a third struct and extend a fourth; in the next, two structs
refer to each other; one declares nothing; in the last, two versions and two extensions
contribute to an enum.

Key theorems: `Registry.load_eq_loadChars`, `load_platformDocument`,
`load_cycleDocument`, `ofDocument_enumDocument`.
-/
import Mathlib.Control.Monad.Basic
import VulkanFoundry.Registry.OfDocument

namespace VulkanFoundry

open Markup in
/-- The document in the first element of a list of characters. -/
def Document.ofChars? (cs : List Char) : Option Document := do
  let root ← build? [] (lexemes (withoutByteOrderMark cs))
  let (r, _) ← (Element.record rootShape ⟨root.tag, root.children, root.next⟩).run {}
  return ofParts r.parts

def Registry.loadChars (cs : List Char) : Except LoadError Registry :=
  match Document.ofChars? cs with
  | some doc => ofDocument doc
  | none => .error .malformed

theorem Registry.load_eq_loadChars {text : String} {cs : List Char}
    (h : text = String.ofList cs) : load text = loadChars cs := by
  rw [h, load, Document.read?, Markup.Root.read?, String.toList_ofList]
  rfl

/-! ### Three documents -/

/-- A member with nothing but a type and a name. -/
def Member.plain (type name : String) : Member :=
  { type, name, arraySizes := [], expectedValue := none, len := none, nullTerminated := false,
    noAutoValidity := false, optional := false, bitFieldWidth := none, selection := none }

def structEntry (name : String) (extended : List String) (members : List Member) :
    String × RegistryType :=
  (name, .struct { name, members, extended, returnedOnly := false })

def typeFeatures (names : List String) : NameMap Feature :=
  NameMap.ofList (names.map fun name => (name, { name, kind := .type, addition := none }))

def firstVersion (types : List String) : String × CoreVersion :=
  ("VK_VERSION_1_0",
    { name := "VK_VERSION_1_0", number := "1.0", features := typeFeatures types })

def platformExtension (name : String) (number : UInt32) (platform : String) (types : List String) :
    String × Extension :=
  (name,
    { name, number, kind := none, platform := some platform, promotedTo := none,
      deprecatedBy := none, depends := none,
      requirements := [{ depends := none, features := typeFeatures types }] })

/-- Structs of two platforms share one struct and extend another. -/
def platformDocument : String := r#"<registry>
<platforms>
<platform name="xlib" protect="XLIB"/>
<platform name="win32" protect="WIN32"/>
</platforms>
<types>
<type name="void"/>
<type category="struct" name="Info">
<member><type>void</type>* <name>pNext</name></member></type>
<type category="struct" name="Shared">
<member><type>void</type>* <name>data</name></member></type>
<type category="struct" name="XlibLink" structextends="Info">
<member><type>void</type>* <name>pNext</name></member>
<member><type>Shared</type> <name>shared</name></member></type>
<type category="struct" name="Win32Link" structextends="Info">
<member><type>void</type>* <name>pNext</name></member>
<member><type>Shared</type>* <name>pShared</name></member></type>
</types>
<feature name="VK_VERSION_1_0" number="1.0"><require><type name="Info"/></require></feature>
<extensions>
<extension name="VK_KHR_xlib" number="5" platform="xlib" supported="vulkan">
<require><type name="XlibLink"/></require></extension>
<extension name="VK_KHR_win32" number="6" platform="win32" supported="vulkan">
<require><type name="Win32Link"/></require></extension>
</extensions>
</registry>"#

def platformRegistry : Registry where
  platforms := NameMap.ofList [("xlib", ⟨"xlib", "XLIB"⟩), ("win32", ⟨"win32", "WIN32"⟩)]
  types := NameMap.ofList [
    ("void", .external { name := "void", header := none, isCType := true }),
    structEntry "Info" [] [.plain "void*" "pNext"],
    structEntry "Shared" [] [.plain "void*" "data"],
    structEntry "XlibLink" ["Info"] [.plain "void*" "pNext", .plain "Shared" "shared"],
    structEntry "Win32Link" ["Info"] [.plain "void*" "pNext", .plain "Shared*" "pShared"]]
  coreVersions := NameMap.ofList [firstVersion ["Info"]]
  extensions := NameMap.ofList [
    platformExtension "VK_KHR_xlib" 5 "xlib" ["XlibLink"],
    platformExtension "VK_KHR_win32" 6 "win32" ["Win32Link"]]

/-- A struct with a pointer to a struct that holds the first one by value. -/
def cycleDocument : String := r#"<registry>
<types>
<type category="struct" name="A">
<member>const <type>B</type>* <name>pB</name></member></type>
<type category="struct" name="B"><member><type>A</type> <name>a</name></member></type>
</types>
<feature name="VK_VERSION_1_0" number="1.0">
<require><type name="A"/><type name="B"/></require></feature>
</registry>"#

def cycleRegistry : Registry where
  types := NameMap.ofList [
    structEntry "A" [] [.plain "const B*" "pB"],
    structEntry "B" [] [.plain "A" "a"]]
  coreVersions := NameMap.ofList [firstVersion ["A", "B"]]

set_option maxRecDepth 20000 in
theorem load_platformDocument : Registry.load platformDocument = .ok platformRegistry := by
  rw [Registry.load_eq_loadChars (rfl : platformDocument = _)]
  decide +kernel

set_option maxRecDepth 20000 in
theorem load_cycleDocument : Registry.load cycleDocument = .ok cycleRegistry := by
  rw [Registry.load_eq_loadChars (rfl : cycleDocument = _)]
  decide +kernel

def emptyDocument : String := "<registry></registry>"

theorem load_emptyDocument : Registry.load emptyDocument = .ok {} := by
  rw [Registry.load_eq_loadChars (rfl : emptyDocument = _)]
  decide +kernel

/-! ### A document with contributions -/

/-- An extension adds a field and a field alias to an enum, and a constant. -/
def blueRequirement : RequireElement where
  entries := [
    .enum { name := some "BLUE", extended := some "Color", offset := some "0" },
    .enum { name := some "VERT", extended := some "Color", target := some "GREEN" },
    .enum { name := some "BLUE_VERSION", value := some "1" }]

/-- Two versions and two extensions add to an enum, one of each by way of an alias.
Values stand as literals and as offsets, in the block of the extension around them or
of a numbered one, and some of them are given twice. The versions and the extensions
stand against the order of their names. -/
def enumDocument : Document where
  types := [
    { name := some "uint32_t" },
    { name := some "Color", category := some "enum" },
    { name := some "ColorKHR", category := some "enum", target := some "Color" },
    { name := some "Pixel", category := some "struct",
      content := [.member { content :=
        [.type "uint32_t", .name "words", .text "[", .enum "WORDS", .text "]"] }] }]
  enumBlocks := [
    { name := some "API Constants", entries := [{ name := some "WORDS", value := some "4" }] },
    { name := some "Color", kind := some "enum", entries := [
      { name := some "RED", value := some "0" },
      { name := some "ROUGE", target := some "RED" }] }]
  versions := [
    { name := some "VK_VERSION_1_1", number := some "1.1", api := some "vulkan,vulkansc",
      requirements := [{ entries := [
        .enum { name := some "YELLOW", extended := some "Color",
                extensionNumber := some "7", offset := some "0" },
        .enum { name := some "GREEN", extended := some "Color", value := some "1" }] }] },
    { name := some "VK_VERSION_1_0", number := some "1.0",
      requirements := [{ entries := [
        .type { name := some "Pixel" },
        .enum { name := some "GREEN", extended := some "ColorKHR", value := some "1" }] }] }]
  extensions := [
    { name := some "VK_KHR_blue", number := some "2", supported := some "vulkan",
      requirements := [blueRequirement, { entries := [
        .enum { name := some "NAVY", extended := some "Color",
                offset := some "1", direction := some "-" }] }] },
    { name := some "VK_KHR_amber", number := some "5", supported := some "vulkansc,vulkan",
      requirements := [
        { entries := [
          .enum { name := some "AMBER", extended := some "ColorKHR", offset := some "2" }] },
        { depends := some "VK_KHR_blue", api := some "vulkansc,vulkan", entries := [
          .enum { name := some "BLUE", extended := some "Color", api := some "vulkansc,vulkan",
                  extensionNumber := some "2", offset := some "0" }] }] }]

def colorBlock : EnumType where
  name := "Color"
  fields := [{ name := "RED", value := 0, representation := "0", added := false }]
  aliases := NameMap.ofList [("ROUGE", { name := "ROUGE", target := "RED", added := false })]
  bitmask := false
  bit64 := false

def colorEnum : EnumType where
  name := "Color"
  fields := [
    { name := "RED", value := 0, representation := "0", added := false },
    { name := "GREEN", value := 1, representation := "1", added := true },
    { name := "YELLOW", value := 1000006000, representation := "1000006000", added := true },
    { name := "AMBER", value := 1000004002, representation := "1000004002", added := true },
    { name := "BLUE", value := 1000001000, representation := "1000001000", added := true },
    { name := "NAVY", value := -1000001001, representation := "-1000001001", added := true }]
  aliases := NameMap.ofList [
    ("ROUGE", { name := "ROUGE", target := "RED", added := false }),
    ("VERT", { name := "VERT", target := "GREEN", added := true })]
  bitmask := false
  bit64 := false

def enumExtension (name : String) (number : UInt32) (requirements : List Requirement) :
    String × Extension :=
  (name,
    { name, number, kind := none, platform := none, promotedTo := none, deprecatedBy := none,
      depends := none, requirements })

def enumFeature (name : String) (addition : EnumAddition) : String × Feature :=
  (name, ⟨name, .enum, some addition⟩)

/-- What the sections of `enumDocument` declare. -/
def enumSections : Registry where
  types := NameMap.ofList [
    ("Color", .enum colorBlock),
    ("ColorKHR", .enumAlias ⟨"ColorKHR", "Color"⟩),
    structEntry "Pixel" [] [{ Member.plain "uint32_t" "words" with
      arraySizes := [.constant "WORDS"] }],
    ("WORDS", .define { name := "WORDS", signature := none, value := "4", added := false }),
    ("uint32_t", .external { name := "uint32_t", header := none, isCType := true })]
  coreVersions := NameMap.ofList [
    ("VK_VERSION_1_0",
      { name := "VK_VERSION_1_0", number := "1.0", features := NameMap.ofList [
        enumFeature "GREEN" (.field "ColorKHR" (.literal "1")),
        ("Pixel", ⟨"Pixel", .type, none⟩)] }),
    ("VK_VERSION_1_1",
      { name := "VK_VERSION_1_1", number := "1.1", features := NameMap.ofList [
        enumFeature "GREEN" (.field "Color" (.literal "1")),
        enumFeature "YELLOW" (.field "Color" (.offset (some 7) 0 false))] })]
  extensions := NameMap.ofList [
    enumExtension "VK_KHR_amber" 5 [
      { depends := none, features := NameMap.ofList [
        enumFeature "AMBER" (.field "ColorKHR" (.offset none 2 false))] },
      { depends := some "VK_KHR_blue", features := NameMap.ofList [
        enumFeature "BLUE" (.field "Color" (.offset (some 2) 0 false))] }],
    enumExtension "VK_KHR_blue" 2 [
      { depends := none, features := NameMap.ofList [
        enumFeature "BLUE" (.field "Color" (.offset none 0 false)),
        enumFeature "BLUE_VERSION" (.constant "1"),
        enumFeature "VERT" (.fieldAlias "Color" "GREEN")] },
      { depends := none, features := NameMap.ofList [
        enumFeature "NAVY" (.field "Color" (.offset none 1 true))] }]]

def enumRegistry : Registry where
  types := (enumSections.types.insert "Color" (.enum colorEnum)).insert "BLUE_VERSION"
    (.define { name := "BLUE_VERSION", signature := none, value := "1", added := true })
  coreVersions := enumSections.coreVersions
  extensions := enumSections.extensions

theorem withContributions_enumSections : enumSections.withContributions = .ok enumRegistry := by
  decide +kernel

theorem ofDocument_enumDocument : Registry.ofDocument enumDocument = .ok enumRegistry := by
  decide +kernel

end VulkanFoundry
