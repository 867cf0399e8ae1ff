import EtcdKit.Certificates
import EtcdKit.Script.Basic
/-!
# Request — the files that the certificate programs read

Every value is written between its quotes as it is.
-/
namespace EtcdKit.CertificateAuthority

def quotedMember (name content : String) : String := "\"" ++ name ++ "\": \"" ++ content ++ "\""

def requestHead (ca : CertificateAuthority) : List String :=
  ["\x7b",
    "  \"key\": \x7b",
    "    " ++ quotedMember "algo" ca.keyAlgorithm ++ ",",
    "    \"size\": " ++ toString ca.writtenKeySize,
    "  \x7d,",
    "  \"names\": [",
    "    \x7b",
    "      " ++ quotedMember "O" ca.organization ++ ",",
    "      " ++ quotedMember "OU" ca.organizationUnit ++ ",",
    "      " ++ quotedMember "L" ca.city ++ ",",
    "      " ++ quotedMember "ST" ca.state ++ ",",
    "      " ++ quotedMember "C" ca.country,
    "    \x7d",
    "  ],"]

def rootRequest (ca : CertificateAuthority) : String :=
  Script.lines (ca.requestHead ++ ["  " ++ quotedMember "CN" ca.commonName, "\x7d"])

def hostLine (host : String) : String := "    \"" ++ host ++ "\""

def memberRequest (ca : CertificateAuthority) (commonName : String) (hosts : List String) :
    String :=
  Script.lines (ca.requestHead ++ [
    "  " ++ quotedMember "CN" commonName ++ ",",
    "  \"hosts\": [",
    String.intercalate ",\n" (hosts.map hostLine),
    "  ]",
    "\x7d"])

def signingPolicy (ca : CertificateAuthority) : String :=
  Script.lines [
    "\x7b",
    "  \"signing\": \x7b",
    "    \"default\": \x7b",
    "        \"usages\": [",
    "          \"signing\",",
    "          \"key encipherment\",",
    "          \"server auth\",",
    "          \"client auth\"",
    "        ],",
    "        " ++ quotedMember "expiry" (toString ca.writtenExpiryHours ++ "h"),
    "    \x7d",
    "  \x7d",
    "\x7d"]

end EtcdKit.CertificateAuthority
