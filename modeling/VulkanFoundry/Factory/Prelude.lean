/-
# Declarations shared by all factories

The generated header opens with a function that rounds sizes up, the sidecar
class, which owns the memory that structs point into, and the interface through
which extension chains are linked.
-/
import VulkanFoundry.Code.Layout

namespace VulkanFoundry
namespace Prelude

/-- The function that rounds sizes up to whole pointers. -/
def alignment : List String :=
  [
    "// Rounds `size` up to a multiple of the pointer width.",
    "inline size_t AlignToPointer(size_t size) \x7b",
    "  return (size + sizeof(void*) - 1) / sizeof(void*) * sizeof(void*);",
    "\x7d",
    ""
  ]

/-- The class that owns what is allocated while structs are generated. -/
def sidecarClass : List String :=
  [
    "// Owns every allocation made while materializing a struct and its extension",
    "// chain. Subordinate views share the backing blocks of the view they were",
    "// created from, so pointers written into materialized structs stay valid",
    "// while any view is alive.",
    "class Sidecar \x7b",
    "  using Blocks = std::vector<std::unique_ptr<unsigned char[]>>;",
    "",
    " public:",
    "  Sidecar() : blocks_(std::make_shared<Blocks>()) \x7b\x7d",
    "",
    "  Sidecar Subordinate() const \x7b return Sidecar(blocks_); \x7d",
    "",
    "  size_t BlockCount() const \x7b return blocks_->size(); \x7d",
    "",
    "  template <typename T>",
    "  T* Allocate(size_t count) \x7b",
    "    if (count == 0) return nullptr;",
    "    std::unique_ptr<unsigned char[]> block(new unsigned char[sizeof(T) * count]);",
    "    T* items = reinterpret_cast<T*>(block.get());",
    "    for (size_t i = 0; i < count; ++i) new (items + i) T();",
    "    blocks_->push_back(std::move(block));",
    "    return items;",
    "  \x7d",
    "",
    "  template <typename T>",
    "  T* CopyArray(const std::vector<T>& values) \x7b",
    "    T* items = Allocate<T>(values.size());",
    "    for (size_t i = 0; i < values.size(); ++i) items[i] = values[i];",
    "    return items;",
    "  \x7d",
    "",
    "  char* CopyString(const std::string& value) \x7b",
    "    char* text = Allocate<char>(value.size() + 1);",
    "    std::memcpy(text, value.c_str(), value.size() + 1);",
    "    return text;",
    "  \x7d",
    "",
    "  const char** CopyStringArray(const std::vector<std::string>& values) \x7b",
    "    const char** items = Allocate<const char*>(values.size());",
    "    for (size_t i = 0; i < values.size(); ++i) items[i] = CopyString(values[i]);",
    "    return items;",
    "  \x7d",
    "",
    "  template <typename T>",
    "  T** CopyNestedArray(const std::vector<std::vector<T>>& values) \x7b",
    "    T** rows = Allocate<T*>(values.size());",
    "    for (size_t i = 0; i < values.size(); ++i) rows[i] = CopyArray(values[i]);",
    "    return rows;",
    "  \x7d",
    "",
    " private:",
    "  explicit Sidecar(std::shared_ptr<Blocks> blocks) : blocks_(std::move(blocks)) \x7b\x7d",
    "",
    "  std::shared_ptr<Blocks> blocks_;",
    "\x7d;",
    ""
  ]

/-- The interface of everything that can be attached to an extension chain. -/
def chainLinkClass : List String :=
  [
    "// A factory that can be attached to a pNext chain.",
    "class ChainLink \x7b",
    " public:",
    "  virtual ~ChainLink() = default;",
    "",
    "  // Size of the wire struct this factory materializes.",
    "  virtual size_t Size() const = 0;",
    "",
    "  // Combined pointer-aligned size of the links attached behind this one.",
    "  virtual size_t ChainSize() const = 0;",
    "",
    "  // Pointer-aligned size of this link plus everything attached behind it.",
    "  size_t ChainLinkSize() const \x7b return AlignToPointer(Size()) + ChainSize(); \x7d",
    "",
    "  // Materializes the wire struct into `sidecar` and returns its address.",
    "  virtual void* GenerateChainLink(Sidecar sidecar) const = 0;",
    "\x7d;"
  ]

def text : String := Code.unlines (alignment ++ sidecarClass ++ chainLinkClass)

end Prelude
end VulkanFoundry
