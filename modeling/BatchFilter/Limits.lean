/-! # Limits

    The greatest sizes that are accepted. -/

namespace BatchFilter.Limits

/-- How deep the combinations of a config may nest. -/
def conditionDepth : Nat := 32

/-- How many children a combination may have. -/
def conditionChildren : Nat := 256

/-- How many bytes a line of input may have (16 MiB). -/
def lineBytes : Nat := 16 * 1024 * 1024

/-- How many bytes a config file may have (1 MiB). -/
def configBytes : Nat := 1024 * 1024

/-- How deep the values of a JSON text may nest that are read. -/
def documentDepth : Nat := 127

/-- How deep the lists and inline tables of a TOML text may nest. -/
def inlineDepth : Nat := 80

/-- How many keys a dotted key of a TOML text may have. -/
def dottedKeys : Nat := 80

/-- How many bytes can be asked for in one piece, one less than 2^63. -/
def reservedBytes : Nat := 9223372036854775807

end BatchFilter.Limits
