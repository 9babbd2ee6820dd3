import WildcardRules.Text

set_option autoImplicit false

namespace WildcardRules.Regex

def sizeLimit : Nat := 10485760

def tooLarge : Text := "Compiled regex exceeds size limit of 10485760 bytes.".toList

end WildcardRules.Regex
