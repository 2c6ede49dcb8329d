/-
# Names in the generated C++ code

A struct's factory class is named for the struct. A member of the struct has a
setter, a getter and a private field in the class, named for the member.
-/
import VulkanFoundry.Text.LetterCase

namespace VulkanFoundry
namespace Code

def factoryName (struct : String) : String := struct ++ "Factory"

def setterName (member : String) : String := "set" ++ Text.upperFirst member

def getterName (member : String) : String := "get" ++ Text.upperFirst member

def fieldName (member : String) : String := member ++ "_"

end Code
end VulkanFoundry
